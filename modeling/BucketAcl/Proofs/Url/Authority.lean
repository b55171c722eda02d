/-
The authority of a service. It is written in visible characters none of
which ends it, and its port is never the one that the scheme implies.
-/
import BucketAcl.Proofs.Result
import BucketAcl.Proofs.Url.Host
import BucketAcl.Proofs.Url.Service

namespace BucketAcl.Url

open Text

-- ================================================================== parts

theorem inAuthority_of_keepInUserInfo {c : Char} (h : Percent.keepInUserInfo c = true) :
    InAuthority c := by
  have hno {d : Char} (hd : Percent.keepInUserInfo d = false) : c ≠ d := by
    rintro rfl
    rw [h] at hd
    cases hd
  have hblank : c ≠ ' ' := hno (by decide)
  simp only [Percent.keepInUserInfo, Percent.keepInPath, Percent.isPrintable, Bool.and_eq_true,
    decide_eq_true_eq] at h
  have hlo : ' '.toNat ≤ c.toNat := UInt32.le_iff_toNat_le.1 h.1.1.1
  have hhi : c.toNat ≤ '~'.toNat := UInt32.le_iff_toNat_le.1 h.1.1.2
  have hne : c.toNat ≠ ' '.toNat := fun heq => hblank (Char.toNat_inj.1 heq)
  have hvisible : '!'.toNat ≤ c.toNat := by
    have hspace : ' '.toNat + 1 = '!'.toNat := rfl
    omega
  exact ⟨⟨hvisible, hhi⟩, hno (by decide), hno (by decide), hno (by decide)⟩

/-- The user part of an authority in its encoded form. -/
theorem inAuthority_of_mem_userInfoText {cs : List Char} {c : Char}
    (h : c ∈ (userInfoText cs).toList) : InAuthority c := by
  have hcolon : InAuthority ':' := by decide
  have hat : InAuthority '@' := by decide
  have hpercent : InAuthority '%' := by decide
  have hdigits : ∀ d ∈ Percent.escapeDigits, InAuthority d := forall_of_all (by decide)
  have henc {part : List Char} (h : c ∈ Percent.encode Percent.keepInUserInfo part) :
      InAuthority c := by
    rcases Percent.mem_encode h with ⟨-, hk⟩ | rfl | h
    · exact inAuthority_of_keepInUserInfo hk
    · exact hpercent
    · exact hdigits c h
  have hwritten {w : List Char} (hw : c ∈ w → InAuthority c)
      (h : c ∈ (if w = [] then "" else String.ofList (w ++ ['@'])).toList) : InAuthority c := by
    split at h
    · cases h
    · rw [String.toList_ofList] at h
      rcases List.mem_append.1 h with h | h
      · exact hw h
      · rw [List.mem_singleton.1 h]
        exact hat
  unfold userInfoText at h
  refine hwritten ?_ h
  intro h
  split at h
  · exact henc h
  · rcases List.mem_append.1 h with h | h
    · exact henc h
    · rcases List.mem_cons.1 h with rfl | h
      · exact hcolon
      · exact henc h
  · exact henc h

/-- A port that is kept is not the one that the scheme implies. -/
theorem defaultPort?_ne_of_parsePort {scheme : String} {cs : List Char} {port : Nat}
    (h : parsePort scheme cs = .ok (some port)) : defaultPort? scheme ≠ some port := by
  unfold parsePort at h
  split at h
  · cases h
  · split at h
    · cases h
    · split at h
      · cases h
      · rename_i hno
        cases h
        intro hdefault
        exact hno (.inr hdefault)

-- ========================================================== the authority

/-- An authority of a special scheme in its written form. -/
structure Authority.IsWritten (scheme : String) (a : Authority) : Prop where
  userInfo : ∀ c ∈ a.userInfo.toList, InAuthority c
  host : ∀ c ∈ a.host.text.toList, InAuthority c
  port : ∀ p, a.port = some p → defaultPort? scheme ≠ some p

theorem isWritten_of_parseHostPort {scheme userInfo : String} {cs rest : List Char}
    {a : Authority} (hs : isSpecial scheme = true)
    (hu : ∀ c ∈ userInfo.toList, InAuthority c)
    (h : parseHostPort scheme userInfo cs = .ok (a, rest)) : a.IsWritten scheme := by
  unfold parseHostPort at h
  rw [hs] at h
  simp only [true_and, if_true] at h
  by_cases hempty : cs.take (hostLength false cs) = []
  · rw [if_pos hempty] at h
    cases h
  rw [if_neg hempty] at h
  obtain ⟨host, hhost, h⟩ := exists_of_bind_eq_ok h
  by_cases hname : host = .name "" ∧ (cs.drop (hostLength false cs) ≠ [] ∨ userInfo ≠ "")
  · rw [if_pos hname] at h
    cases h
  rw [if_neg hname] at h
  obtain ⟨port, hport, h⟩ := exists_of_bind_eq_ok h
  cases h
  refine ⟨hu, Host.inAuthority_of_parse hhost, ?_⟩
  rintro p rfl
  exact defaultPort?_ne_of_parsePort hport

theorem isWritten_of_parseAuthority {scheme : String} {cs rest : List Char} {a : Authority}
    (hs : isSpecial scheme = true) (h : parseAuthority scheme cs = .ok (a, rest)) :
    a.IsWritten scheme := by
  have hempty : ∀ c ∈ "".toList, InAuthority c := by
    intro c hc
    cases hc
  have hrest {userInfo : String} {hostPort : List Char} {f : Authority × List Char → List Char}
      (hu : ∀ c ∈ userInfo.toList, InAuthority c)
      (h : (parseHostPort scheme userInfo hostPort >>= fun p => pure (p.1, f p))
        = Except.ok (a, rest)) : a.IsWritten scheme := by
    obtain ⟨p, hp, h⟩ := exists_of_bind_eq_ok h
    cases h
    exact isWritten_of_parseHostPort hs hu hp
  unfold parseAuthority at h
  dsimp only at h
  split at h
  · split at h
    · exact hrest hempty h
    · cases h
  · exact hrest (fun c => inAuthority_of_mem_userInfoText) h
  · exact hrest hempty h

/-- The authority as it stands in a URL. -/
theorem Authority.IsWritten.inAuthority {scheme : String} {a : Authority}
    (h : a.IsWritten scheme) : ∀ c ∈ a.text.toList, InAuthority c := by
  intro c hc
  unfold text at hc
  rw [String.toList_append, String.toList_append] at hc
  rcases List.mem_append.1 hc with hc | hc
  · rcases List.mem_append.1 hc with hc | hc
    · exact h.userInfo c hc
    · exact h.host c hc
  · cases hp : a.port with
    | none =>
        rw [hp] at hc
        cases hc
    | some p =>
        rw [hp, Option.elim_some, String.toList_append] at hc
        rcases List.mem_append.1 hc with hc | hc
        · rw [List.mem_singleton.1 hc]
          decide
        · exact inAuthority_of_mem_toString hc

end BucketAcl.Url
