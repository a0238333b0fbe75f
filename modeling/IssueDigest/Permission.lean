/-!
# Sensor permissions

Some permissions for sensors are not for every administrator to grant: the owner of a work profile
never may, the owner of a device may unless it opted out.
-/

namespace IssueDigest.Permission

/-- The permissions that are restricted, in the order of their names. -/
def restricted : List String :=
  ["android.permission.ACCESS_BACKGROUND_LOCATION",
    "android.permission.ACCESS_COARSE_LOCATION",
    "android.permission.ACCESS_FINE_LOCATION",
    "android.permission.ACTIVITY_RECOGNITION",
    "android.permission.BACKGROUND_CAMERA",
    "android.permission.BODY_SENSORS",
    "android.permission.CAMERA",
    "android.permission.RECORD_AUDIO",
    "android.permission.RECORD_BACKGROUND_AUDIO"]

/-- Is the permission restricted? -/
def isRestricted (permission : String) : Bool := restricted.contains permission

/-- May an administrator grant the permission, given whether sensor permissions are theirs to
grant? -/
def mayGrant (permission : String) (grantsSensors : Bool) : Bool :=
  !isRestricted permission || grantsSensors

end IssueDigest.Permission
