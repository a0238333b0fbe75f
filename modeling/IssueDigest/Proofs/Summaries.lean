import IssueDigest.Journal.Basic
import IssueDigest.Proofs.Scrubbing
/-!
# Cutting a summary brings no secret back

The context of an entry is scrubbed first and cut afterwards, and a marker is put where it was cut. The cut
can leave half a label, or something that is almost a secret, and the marker adds letters behind it. Still
no secret comes to stand there: all of them but web addresses end in a letter or digit and have no blank in
them (`Secret.Is.exists_concat`, `Secret.Is.isPart`), so they do not reach over the points of the marker, nor
over the blank behind these. What is in front of the points has been scrubbed, and what is behind the blank
is too short (`Secret.free_of_short`).

Web addresses are different. Scrubbing leaves `https://` alone where nothing of an address follows, and the
points of the marker do follow if the cut is there.
-/

namespace IssueDigest

open Scrub

/-! ### Where no secret goes through -/

section Free

variable {kind : Secret} {t front back : Text} {c : CodePoint}

/-- Secrets other than web addresses end in a letter or digit. -/
theorem Scrub.Secret.Is.exists_concat {w : Text} (h : kind.Is w) (hkind : kind ≠ .address) :
    ∃ front c, w = front ++ [c] ∧ isAlnum c := by
  -- Where letters and digits end the text, its last code point is one of them.
  have hends {front back : Text} (hw : w = front ++ back) (hne : back ≠ [])
      (hback : ∀ c ∈ back, isAlnum c) : ∃ front c, w = front ++ [c] ∧ isAlnum c := by
    refine ⟨front ++ back.dropLast, back.getLast hne, ?_, hback _ (List.getLast_mem hne)⟩
    rw [hw, List.append_assoc, List.dropLast_append_getLast]
  have hlong {n : Nat} {back : Text} (hlength : n + 1 ≤ back.length) : back ≠ [] :=
    List.length_pos_iff.mp (Nat.zero_lt_of_lt hlength)
  cases kind with
  | mail =>
    obtain ⟨name, _, rfl, -, -, domain, ending, rfl, -, -, hlength, hletters⟩ := h
    exact @hends (name ++ .char '@' :: (domain ++ [.char '.'])) ending (by simp) (hlong hlength)
      fun c hc => isAlnum_of_isLetter (hletters c hc)
  | secretKey =>
    obtain ⟨rest, rfl, hlength, hrest⟩ := h
    exact hends rfl (hlong hlength) hrest
  | accessToken =>
    obtain ⟨rest, rfl, hlength, hrest⟩ := h
    exact hends rfl (hlong hlength.ge) hrest
  | token => exact @hends [] w rfl (hlong h.1) h.2
  | address => exact absurd rfl hkind

/-- Behind the text comes something that does not end a secret. -/
theorem Scrub.Secret.Free.concat (h : kind.Free t) (hkind : kind ≠ .address) (hc : isAlnum c = false) :
    kind.Free (t ++ [c]) := by
  intro w hw his
  rcases List.infix_concat_iff.mp hw with hsuffix | hw
  · obtain ⟨front, d, rfl, hd⟩ := his.exists_concat hkind
    have hlast := hsuffix.getLast (List.append_ne_nil_of_right_ne_nil front (List.cons_ne_nil d []))
    rw [List.getLast_concat, List.getLast_concat] at hlast
    rw [hlast, hc] at hd
    cases hd
  · exact h w hw his

/-- Between the texts stands something that is in no secret. -/
theorem Scrub.Secret.Free.middle (hfront : kind.Free front) (hback : kind.Free back)
    (hkind : kind ≠ .address) (hc : isPart c = false) : kind.Free (front ++ c :: back) := by
  intro w hw his
  have hnot : c ∉ w := fun hmem => by simpa [hc] using his.isPart hkind c hmem
  have hstart {v : Text} (hv : v <+: c :: back) (hne : v ≠ []) : c ∈ v := by
    obtain ⟨d, v, rfl⟩ := List.exists_cons_of_ne_nil hne
    exact (List.cons_prefix_cons.mp hv).1 ▸ List.mem_cons_self
  rcases List.infix_append_iff_ne_nil.mp hw with hw | hw | ⟨_, v, -, hne, rfl, -, hv⟩
  · exact hfront w hw his
  · rcases List.infix_cons_iff.mp hw with hw | hw
    · exact hnot (hstart hw his.ne_nil)
    · exact hback w hw his
  · exact hnot (List.mem_append_right _ (hstart hv hne))

end Free

/-! ### The cut -/

theorem Text.cut_prefix (limit : Int) (t : Text) : t.cut limit <+: t := by
  unfold Text.cut
  split <;> exact List.take_prefix _ _

/-- A negative limit counts from the end. -/
theorem Text.length_cut {limit : Int} {t : Text} (h : limit < t.length) :
    ((t.cut limit).length : Int) = if 0 ≤ limit then limit else max 0 (t.length + limit) := by
  unfold Text.cut
  split <;> rw [List.length_take] <;> omega

/-- What is put where a text was cut. -/
def cutMark : Text := "... [truncated]"

/-- **The marker completes nothing**: behind the front of a text without secrets it makes none. -/
theorem Scrub.Secret.Free.append_cutMark {kind : Secret} {t front : Text} (h : kind.Free t)
    (hfront : front <+: t) (hkind : kind ≠ .address) : kind.Free (front ++ cutMark) := by
  have hscrubbed : kind.Free front := fun w hw => h w (hw.trans hfront.isInfix)
  have hpoint : isAlnum (.char '.') = false := rfl
  have hpoints : kind.Free (front ++ [.char '.'] ++ [.char '.'] ++ [.char '.']) :=
    ((hscrubbed.concat hkind hpoint).concat hkind hpoint).concat hkind hpoint
  have hword : kind.Free (Text.ofString "[truncated]") :=
    Secret.free_of_short (by decide) (by decide) (by decide)
  have hsplit : front ++ cutMark =
      (front ++ [.char '.'] ++ [.char '.'] ++ [.char '.']) ++ .char ' ' :: Text.ofString "[truncated]" := by
    simp only [List.append_assoc]
    rfl
  rw [hsplit]
  exact hpoints.middle hword hkind rfl

/-! ### Summaries -/

/-- What a summary is if the value cannot be written. -/
def unwritten : Text := "<unable to serialize>"

/-- A summary is the fixed text, or all of the scrubbed line, or a front of it with the marker. -/
theorem summary_cases (limit : Int) (v : Json) :
    (∃ e, v.write Json.plainLine = .error e ∧ summary limit v = unwritten) ∨
      ∃ line, v.write Json.plainLine = .ok line ∧
        ((((scrub line).length : Int) ≤ limit ∧ summary limit v = scrub line) ∨
          (limit < (scrub line).length ∧ summary limit v = (scrub line).cut limit ++ cutMark)) := by
  unfold summary
  cases v.write Json.plainLine with
  | error e => exact .inl ⟨e, rfl, rfl⟩
  | ok line =>
    refine .inr ⟨line, rfl, ?_⟩
    dsimp only
    split
    · next hlong => exact .inr ⟨hlong, rfl⟩
    · next hshort => exact .inl ⟨Int.not_lt.mp hshort, rfl⟩

/-- **Cutting brings no secret back.** However a value reads and wherever its summary is cut, with a
negative limit too, no mail address, access token or other token stands in the summary. The summary is the
fixed text, if the value cannot be written; or all of the scrubbed line, if the limit allows it; or a front of
the scrubbed line, of the length that the limit says, and the marker. A limit of zero or more is passed by
the marker at most. -/
theorem summary_without_secrets (limit : Int) (v : Json) :
    (∀ (kind : Secret) (w : Text), kind ≠ .address → w <:+: summary limit v → ¬kind.Is w) ∧
      ((∃ e, v.write Json.plainLine = .error e ∧ summary limit v = unwritten) ∨
        ∃ line, v.write Json.plainLine = .ok line ∧
          (((scrub line).length ≤ limit ∧ summary limit v = scrub line) ∨
            (limit < (scrub line).length ∧ ∃ front, front <+: scrub line ∧
              (front.length : Int) = (if 0 ≤ limit then limit else max 0 ((scrub line).length + limit)) ∧
              summary limit v = front ++ cutMark)) ∧
          (0 ≤ limit → ((summary limit v).length : Int) ≤ limit + 15)) := by
  rcases summary_cases limit v with
    ⟨e, hwrite, hsummary⟩ | ⟨line, hwrite, ⟨hshort, hsummary⟩ | ⟨hlong, hsummary⟩⟩
  · refine ⟨fun kind w _ => ?_, .inl ⟨e, hwrite, hsummary⟩⟩
    rw [hsummary]
    exact Secret.free_of_short (by decide) (by decide) (by decide) w
  · refine ⟨fun kind w _ => ?_, .inr ⟨line, hwrite, .inl ⟨hshort, hsummary⟩, fun _ => ?_⟩⟩
    · rw [hsummary]
      exact free_scrub line w
    · rw [hsummary]
      omega
  · have hlength := Text.length_cut hlong
    refine ⟨fun kind w hkind => ?_, .inr ⟨line, hwrite, .inr ⟨hlong, ?_⟩, fun hlimit => ?_⟩⟩
    · rw [hsummary]
      exact (free_scrub line).append_cutMark (Text.cut_prefix limit _) hkind w
    · exact ⟨(scrub line).cut limit, Text.cut_prefix limit _, hlength, hsummary⟩
    · rw [if_pos hlimit] at hlength
      have hmark : cutMark.length = 15 := rfl
      rw [hsummary, List.length_append]
      omega

/-- A cut can leave half a label. -/
example : summary 4 (.text "a@b.cc") = "\"<em... [truncated]" := by decide

/-- Web addresses are not among the kinds above: here the marker completes one. -/
example : Secret.pattern .address ((summary 9 (.text "https:// and more")).drop 1) = some 11 := by decide

end IssueDigest
