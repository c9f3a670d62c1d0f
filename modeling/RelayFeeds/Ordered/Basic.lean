/-! # Strict orders — what ascending containers compare by

A decidable strict total order, as a class of its own so that a container's layout depends on one
comparison only, and lists that ascend in it. Text is compared character by character by code
point, which is also the order of its UTF-8 bytes. -/

namespace RelayFeeds

universe u

/-- A strict total order with a decision procedure. -/
class Ordered (α : Type u) where
  /-- Whether the first value comes before the second. -/
  less : α → α → Bool
  /-- No value comes before itself. -/
  less_irrefl : ∀ a, less a a = false
  /-- Coming before is transitive. -/
  less_trans : ∀ {a b c}, less a b = true → less b c = true → less a c = true
  /-- Two values neither of which comes before the other are equal. -/
  less_connex : ∀ {a b}, less a b = false → less b a = false → a = b

namespace Ordered

variable {α : Type u} [Ordered α]

/-- The three-way comparison that `less` decides. -/
def compare (a b : α) : Ordering :=
  if less a b then .lt else if less b a then .gt else .eq

/-- Two values never come before each other. -/
theorem less_asymm {a b : α} (h : less a b = true) : less b a = false := by
  cases hb : less b a with
  | false => rfl
  | true => exact absurd (less_trans h hb) (by simp [less_irrefl])

/-- A value that comes before another differs from it. -/
theorem ne_of_less {a b : α} (h : less a b = true) : a ≠ b := by
  rintro rfl
  simp [less_irrefl] at h

/-- A list whose every member comes before all later ones. -/
def Ascending (values : List α) : Prop := values.Pairwise (fun a b => less a b = true)

instance (values : List α) : Decidable (Ascending values) :=
  inferInstanceAs (Decidable (values.Pairwise fun a b => less a b = true))

/-- The empty list ascends. -/
theorem ascending_nil : Ascending ([] : List α) := List.Pairwise.nil

/-- A list of one member ascends. -/
theorem ascending_singleton (a : α) : Ascending [a] := List.pairwise_singleton _ _

end Ordered

/-- Lexicographic order of two lists by code point, the shorter first when one begins the other. -/
def lessChars : List Char → List Char → Bool
  | _, [] => false
  | [], _ :: _ => true
  | a :: as, b :: bs => a.toNat.blt b.toNat || (a == b && lessChars as bs)

/-- Nothing comes before itself character by character. -/
theorem lessChars_irrefl (cs : List Char) : lessChars cs cs = false := by
  induction cs with
  | nil => rfl
  | cons c cs ih =>
    have h : c.toNat.blt c.toNat = false := by
      rw [← Bool.not_eq_true, Nat.blt_eq]
      omega
    simp [lessChars, ih, h]

/-- Order character by character is transitive. -/
theorem lessChars_trans {as bs cs : List Char} (hab : lessChars as bs = true)
    (hbc : lessChars bs cs = true) : lessChars as cs = true := by
  induction as generalizing bs cs with
  | nil =>
    cases bs with
    | nil => simp [lessChars] at hab
    | cons b bs =>
      cases cs with
      | nil => simp [lessChars] at hbc
      | cons c cs => rfl
  | cons a as ih =>
    cases bs with
    | nil => simp [lessChars] at hab
    | cons b bs =>
      cases cs with
      | nil => simp [lessChars] at hbc
      | cons c cs =>
        simp only [lessChars, Bool.or_eq_true, Nat.blt_eq, Bool.and_eq_true, beq_iff_eq] at *
        rcases hab with hab | ⟨rfl, hab⟩ <;> rcases hbc with hbc | ⟨rfl, hbc⟩
        · exact Or.inl (by omega)
        · exact Or.inl hab
        · exact Or.inl hbc
        · exact Or.inr ⟨rfl, ih hab hbc⟩

/-- Lists neither of which comes before the other character by character are equal. -/
theorem lessChars_connex {as bs : List Char} (hab : lessChars as bs = false)
    (hba : lessChars bs as = false) : as = bs := by
  induction as generalizing bs with
  | nil =>
    cases bs with
    | nil => rfl
    | cons b bs => simp [lessChars] at hab
  | cons a as ih =>
    cases bs with
    | nil => simp [lessChars] at hba
    | cons b bs =>
      simp only [lessChars, Bool.or_eq_false_iff, Bool.and_eq_false_iff] at hab hba
      have hle : ¬a.toNat < b.toNat := by
        rw [← Nat.blt_eq]
        simp [hab.1]
      have hge : ¬b.toNat < a.toNat := by
        rw [← Nat.blt_eq]
        simp [hba.1]
      have heq : a = b := Char.toNat_inj.mp (by omega)
      subst heq
      simp only [beq_self_eq_true, Bool.true_eq_false, false_or] at hab hba
      rw [ih hab.2 hba.2]

/-- Text is ordered by code point. -/
instance : Ordered String where
  less a b := lessChars a.toList b.toList
  less_irrefl a := lessChars_irrefl a.toList
  less_trans hab hbc := lessChars_trans hab hbc
  less_connex hab hba := String.toList_injective (lessChars_connex hab hba)

/-- Event kinds are ordered as numbers. -/
instance : Ordered UInt16 where
  less a b := a.toNat.blt b.toNat
  less_irrefl a := by
    rw [← Bool.not_eq_true, Nat.blt_eq]
    omega
  less_trans {a b c} hab hbc := by
    rw [Nat.blt_eq] at *
    omega
  less_connex {a b} hab hba := by
    rw [← Bool.not_eq_true, Nat.blt_eq] at hab hba
    exact UInt16.toNat_inj.mp (by omega)

end RelayFeeds
