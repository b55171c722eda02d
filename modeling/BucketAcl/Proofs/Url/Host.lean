/-
The characters of a host. Whatever a service is called, its host is
written in visible ASCII and without a character that ends an authority:
a name comes out of Punycode and a list of forbidden characters, and an
address out of digits and its own marks.
-/
import BucketAcl.Proofs.Text.Joined
import BucketAcl.Proofs.Text.Visible
import BucketAcl.Url.Host

namespace BucketAcl.Url

open Text

/-- A visible character that does not end an authority. -/
def InAuthority (c : Char) : Prop := IsVisible c ∧ c ≠ '/' ∧ c ≠ '?' ∧ c ≠ '#'

instance (c : Char) : Decidable (InAuthority c) := inferInstanceAs (Decidable (_ ∧ _))

-- ============================================================== punycode

namespace Punycode

theorem threshold_le (place bias : Nat) : threshold place bias ≤ 26 := by
  unfold threshold
  split
  · omega
  · exact Nat.min_le_left _ _

theorem isBasic_digit {d : Nat} (h : d < 36) : isBasic (digit d) = true := by
  have hall : ∀ e < 36, isBasic (digit e) = true := by decide
  exact hall d h

/-- A digit below its threshold is the last one, and the others are what
is left of a division by 36 less that threshold. -/
theorem isBasic_of_mem_digits {bias place distance : Nat} {c : Char}
    (h : c ∈ digits bias place distance) : isBasic c = true := by
  fun_induction digits bias place distance with
  | case1 place distance t hlt =>
      have hle : t ≤ 26 := threshold_le place bias
      rw [List.mem_singleton.1 h]
      exact isBasic_digit (by omega)
  | case2 place distance t hlt ih =>
      have hle : t ≤ 26 := threshold_le place bias
      have hmod : (distance - t) % (36 - t) < 36 - t := Nat.mod_lt _ (by omega)
      rcases List.mem_cons.1 h with rfl | h
      · exact isBasic_digit (by omega)
      · exact ih h

theorem isBasic_of_mem_encodeInsertions {k : Cursor} {is : List (Char × Nat)} {c : Char}
    (h : c ∈ encodeInsertions k is) : isBasic c = true := by
  induction is generalizing k with
  | nil => cases h
  | cons i r ih =>
      obtain ⟨d, place⟩ := i
      rw [encodeInsertions] at h
      rcases List.mem_append.1 h with h | h
      · exact isBasic_of_mem_digits h
      · exact ih h

theorem isBasic_of_mem_encode {label : List Char} {c : Char} (h : c ∈ encode label) :
    isBasic c = true := by
  unfold encode at h
  dsimp only at h
  rcases List.mem_append.1 h with h | h
  · split at h
    · cases h
    · rcases List.mem_append.1 h with h | h
      · exact (List.mem_filter.1 h).2
      · rw [List.mem_singleton.1 h]
        decide
  · exact isBasic_of_mem_encodeInsertions h

end Punycode

-- ================================================================= names

namespace Domain

theorem isBasic_of_write? {label cs : List Char} (h : write? label = some cs) :
    ∀ c ∈ cs, Punycode.isBasic c = true := by
  unfold write? at h
  split at h
  · rename_i hall
    cases h
    exact List.all_eq_true.1 hall
  · split at h
    · cases h
    · cases h
      intro c hc
      rcases List.mem_append.1 hc with hc | hc
      · have hmark : ∀ d ∈ mark, Punycode.isBasic d = true := forall_of_all (by decide)
        exact hmark c hc
      · exact Punycode.isBasic_of_mem_encode hc

theorem exists_of_mem_mapM {α β : Type} {f : α → Option β} {as : List α} {bs : List β}
    (h : as.mapM f = some bs) : ∀ b ∈ bs, ∃ a ∈ as, f a = some b := by
  induction as generalizing bs with
  | nil =>
      cases h
      intro b hb
      cases hb
  | cons a r ih =>
      simp only [List.mapM_cons, Option.bind_eq_bind, Option.bind_eq_some_iff, Option.pure_def,
        Option.some.injEq] at h
      obtain ⟨x, hx, ys, hys, rfl⟩ := h
      intro b hb
      rcases List.mem_cons.1 hb with rfl | hb
      · exact ⟨a, List.mem_cons_self .., hx⟩
      · obtain ⟨y, hy, hf⟩ := ih hys b hb
        exact ⟨y, List.mem_cons_of_mem _ hy, hf⟩

/-- A name is written in ASCII. -/
theorem isBasic_of_writeName? {cs domain : List Char} (h : writeName? cs = some domain) :
    ∀ c ∈ domain, Punycode.isBasic c = true := by
  unfold writeName? at h
  simp only [Option.bind_eq_bind, Option.bind_eq_some_iff] at h
  obtain ⟨folded, -, labels, -, h⟩ := h
  split at h
  · cases h
  · simp only [Option.bind_eq_some_iff, Option.pure_def, Option.some.injEq] at h
    obtain ⟨written, hwritten, rfl⟩ := h
    intro c hc
    rcases mem_intercalate hc with hc | ⟨cs, hcs, hc⟩
    · rw [List.mem_singleton.1 hc]
      decide
    · obtain ⟨label, -, hlabel⟩ := exists_of_mem_mapM hwritten cs hcs
      exact isBasic_of_write? hlabel c hc

end Domain

-- ============================================================= addresses

theorem inAuthority_of_mem_toDigits {n : Nat} {c : Char} (h : c ∈ Nat.toDigits 16 n) :
    InAuthority c := by
  have hall : ∀ d ∈ "0123456789abcdef".toList, InAuthority d :=
    forall_of_all (by decide)
  have hdigit {d : Nat} (hd : d < 16) : InAuthority d.digitChar := by
    have hmem : ∀ e < 16, Nat.digitChar e ∈ "0123456789abcdef".toList := by decide
    exact hall _ (hmem d hd)
  induction n using Nat.strongRecOn with
  | ind n ih =>
      by_cases hlt : n < 16
      · rw [Nat.toDigits_of_lt_base hlt] at h
        rw [List.mem_singleton.1 h]
        exact hdigit hlt
      · rw [Nat.toDigits_of_base_le (by omega) (by omega)] at h
        rcases List.mem_append.1 h with h | h
        · exact ih (n / 16) (by omega) h
        · rw [List.mem_singleton.1 h]
          exact hdigit (Nat.mod_lt _ (by omega))

theorem inAuthority_of_isDigit {c : Char} (h : c.isDigit = true) : InAuthority c := by
  have hdigit := Char.isDigit_iff_toNat.1 h
  have hne {d : Char} (hd : d.isDigit = false) : c ≠ d := by
    rintro rfl
    rw [h] at hd
    cases hd
  exact ⟨isVisible_of_isDigit h, hne (by decide), hne (by decide), hne (by decide)⟩

theorem inAuthority_of_mem_toString {n : Nat} {c : Char} (h : c ∈ (toString n).toList) :
    InAuthority c := by
  rw [Nat.toString_eq_repr, Nat.toList_repr] at h
  exact inAuthority_of_isDigit (Nat.isDigit_of_mem_toDigits (by decide) (by decide) h)

namespace Address

theorem inAuthority_of_mem_textIpv4 {address : Nat} {c : Char}
    (h : c ∈ (textIpv4 address).toList) : InAuthority c := by
  rcases mem_toList_intercalate h with h | ⟨s, hs, h⟩
  · rw [List.mem_singleton.1 h]
    decide
  · obtain ⟨n, -, rfl⟩ := List.mem_map.1 hs
    exact inAuthority_of_mem_toString h

theorem inAuthority_of_mem_textIpv6 {ps : List Nat} {c : Char} (h : c ∈ (textIpv6 ps).toList) :
    InAuthority c := by
  have hjoin {qs : List Nat} (h : c ∈ (":".intercalate (qs.map hexNumber)).toList) :
      InAuthority c := by
    rcases mem_toList_intercalate h with h | ⟨s, hs, h⟩
    · rw [List.mem_singleton.1 h]
      decide
    · obtain ⟨n, -, rfl⟩ := List.mem_map.1 hs
      rw [hexNumber, String.toList_ofList] at h
      exact inAuthority_of_mem_toDigits h
  have hliteral {s : String} (hs : s.toList.all (fun d => decide (InAuthority d)) = true)
      (h : c ∈ s.toList) : InAuthority c := forall_of_all hs c h
  unfold textIpv6 at h
  dsimp only at h
  rw [String.toList_append, String.toList_append] at h
  rcases List.mem_append.1 h with h | h
  · rcases List.mem_append.1 h with h | h
    · exact hliteral (by decide) h
    · split at h
      · exact hjoin h
      · rw [String.toList_append, String.toList_append] at h
        rcases List.mem_append.1 h with h | h
        · rcases List.mem_append.1 h with h | h
          · exact hjoin h
          · exact hliteral (by decide) h
        · exact hjoin h
  · exact hliteral (by decide) h

end Address

-- ================================================================= hosts

namespace Host

/-- A character of ASCII that is not forbidden. -/
theorem inAuthority_of_not_isForbidden {c : Char} (hb : Punycode.isBasic c = true)
    (hf : isForbidden c = false) : InAuthority c := by
  simp only [isForbidden, Bool.or_eq_false_iff, decide_eq_false_iff_not, beq_eq_false_iff_ne]
    at hf
  obtain ⟨⟨hlow, hdel⟩, hmarks⟩ := hf
  have hne {d : Char} (hd : "#/:<>?@[\\]^|%".toList.contains d = true) : c ≠ d := by
    rintro rfl
    rw [hd] at hmarks
    cases hmarks
  have hlo : '!'.toNat ≤ c.toNat := UInt32.le_iff_toNat_le.1 (Char.not_lt.1 hlow)
  have hhi : c.toNat < '\x80'.toNat := UInt32.lt_iff_toNat_lt.1 (of_decide_eq_true hb)
  have hdel' : c.toNat ≠ '\x7f'.toNat := fun h => hdel (Char.toNat_inj.1 h)
  have hvisible : IsVisible c := by
    refine ⟨hlo, ?_⟩
    have h1 : '\x80'.toNat = 128 := rfl
    have h2 : '\x7f'.toNat = 127 := rfl
    have h3 : '~'.toNat = 126 := rfl
    omega
  exact ⟨hvisible, hne (by decide), hne (by decide), hne (by decide)⟩

theorem inAuthority_of_ofDomain {cs : List Char} {host : Host} (h : ofDomain cs = .ok host) :
    ∀ c ∈ host.text.toList, InAuthority c := by
  unfold ofDomain at h
  cases hw : Domain.writeName? cs with
  | none =>
      rw [hw] at h
      cases h
  | some domain =>
      rw [hw] at h
      dsimp only at h
      by_cases hf : domain.any isForbidden = true
      · rw [if_pos hf] at h
        cases h
      rw [if_neg hf] at h
      by_cases hnil : domain = []
      · rw [if_pos hnil] at h
        cases h
      rw [if_neg hnil] at h
      by_cases hn : Address.endsInNumber domain = true
      · rw [if_pos hn] at h
        cases ha : Address.parseIpv4? domain with
        | none =>
            rw [ha] at h
            cases h
        | some a =>
            rw [ha] at h
            cases h
            exact fun c => Address.inAuthority_of_mem_textIpv4
      · rw [if_neg hn] at h
        cases h
        intro c hc
        rw [text, String.toList_ofList] at hc
        have hfree := List.any_eq_false.1 (Bool.eq_false_iff.2 hf) c hc
        exact inAuthority_of_not_isForbidden (Domain.isBasic_of_writeName? hw c hc)
          (Bool.eq_false_iff.2 hfree)

/-- The host of a text under a special scheme, in its written form. -/
theorem inAuthority_of_parse {cs : List Char} {host : Host} (h : parse cs = .ok host) :
    ∀ c ∈ host.text.toList, InAuthority c := by
  unfold parse at h
  cases hb : bracketed? cs with
  | some r =>
      rw [hb] at h
      dsimp only at h
      subst h
      unfold bracketed? at hb
      split at hb
      · split at hb
        · split at hb
          · cases hb
            exact fun c => Address.inAuthority_of_mem_textIpv6
          · cases hb
        · cases hb
      · cases hb
  | none =>
      rw [hb] at h
      dsimp only at h
      split at h
      · exact inAuthority_of_ofDomain h
      · cases h

end Host

end BucketAcl.Url
