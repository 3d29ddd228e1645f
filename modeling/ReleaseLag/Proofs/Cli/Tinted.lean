import ReleaseLag.Cli.Report

/-!
# `ReleaseLag.Proofs.Cli.Tinted`: colours put into a text

`Tinted` is deletion in an order that keeps every character of the text and drops
escape sequences only. It puts up with a text that has escape sequences of its
own, since nothing is said about where the dropped ones stand, and without colours
none are dropped (`Tinted.eq_of_false`). Painting puts in nothing else
(`tinted_paint`), even where it opens a style once more behind a reset that was in
the text.
-/

set_option autoImplicit false

namespace ReleaseLag.Proofs.Cli

open ReleaseLag.Cli

/-- Numbers with semicolons between them, or anything else that is made of these
characters. -/
def IsNumbers (s : Text) : Prop :=
  ∀ c ∈ s, c = ';' ∨ c.isDigit = true

instance (s : Text) : Decidable (IsNumbers s) :=
  List.decidableBAll (fun c => c = ';' ∨ c.isDigit = true) s

/-- An escape sequence for a colour has only numbers in it. -/
inductive IsEscape : Text → Prop
  | intro {numbers : Text} (h : IsNumbers numbers) :
      IsEscape ('\x1b' :: '[' :: numbers ++ ['m'])

/-- The first text is the second with escape sequences put in, if colours are
shown. -/
inductive Tinted (color : Bool) : Text → Text → Prop
  | nil : Tinted color [] []
  | keep {c : Char} {out shown : Text} (h : Tinted color out shown) :
      Tinted color (c :: out) (c :: shown)
  | drop {code out shown : Text} (hcolor : color = true) (hcode : IsEscape code)
      (h : Tinted color out shown) : Tinted color (code ++ out) shown

/-- What is printed, with or without colours, is a text of a kind. -/
def Shows (color : Bool) (kind : Text → Prop) (out : Text) : Prop :=
  ∃ shown, kind shown ∧ Tinted color out shown

namespace Tinted

variable {color : Bool} {out out' shown shown' : Text}

protected theorem refl (s : Text) : Tinted color s s := by
  induction s with
  | nil => exact .nil
  | cons c s ih => exact .keep ih

protected theorem append (h : Tinted color out shown) (h' : Tinted color out' shown') :
    Tinted color (out ++ out') (shown ++ shown') := by
  induction h with
  | nil => exact h'
  | keep _ ih => exact .keep ih
  | drop hcolor hcode _ ih =>
    rw [List.append_assoc]
    exact .drop hcolor hcode ih

/-- Without colours nothing is put in. -/
theorem eq_of_false (h : Tinted false out shown) : out = shown := by
  induction h with
  | nil => rfl
  | keep _ ih => rw [ih]
  | drop hcolor _ _ _ => cases hcolor

end Tinted

/-- What is printed without colours is a text of the kind itself. -/
theorem kind_of_shows {kind : Text → Prop} {out : Text} (h : Shows false kind out) : kind out := by
  obtain ⟨shown, hkind, htinted⟩ := h
  rwa [htinted.eq_of_false]

/-! ### Painted texts -/

/-- The codes of a style are numbers. -/
def HasNumbers (style : Style) : Prop :=
  ∀ code ∈ style.codes, IsNumbers code.toList

instance (style : Style) : Decidable (HasNumbers style) :=
  List.decidableBAll (fun code : String => IsNumbers code.toList) style.codes

section

variable {color : Bool} {style : Style}

theorem tinted_escape {code : String} (hcolor : color = true) (h : IsNumbers code.toList) :
    Tinted color (Style.escape code) [] := by
  have htinted : Tinted color (Style.escape code ++ []) [] := .drop hcolor (.intro h) .nil
  rwa [List.append_nil] at htinted

theorem tinted_opening (hcolor : color = true) (h : HasNumbers style) :
    Tinted color style.opening [] := by
  unfold HasNumbers at h
  unfold Style.opening
  generalize style.codes = codes at h ⊢
  induction codes with
  | nil => exact .nil
  | cons code codes ih =>
    obtain ⟨hcode, hcodes⟩ := List.forall_mem_cons.mp h
    exact (tinted_escape hcolor hcode).append (ih hcodes)

/-- Escape sequences behind each occurrence of a word show nothing. -/
theorem tinted_insertAfter {insertion : Text} (h : Tinted color insertion []) (word s : Text) :
    Tinted color (Text.insertAfter word insertion s) s := by
  unfold Text.insertAfter
  generalize s.length = fuel
  induction fuel generalizing s with
  | zero => exact Tinted.refl s
  | succ fuel ih =>
    cases s with
    | nil => exact .nil
    | cons c s =>
      rw [Text.insertAfter.go]
      split
      · next hword =>
        obtain ⟨rest, hrest⟩ := List.isPrefixOf_iff_prefix.mp hword
        rw [← hrest, List.drop_left, List.append_assoc]
        exact (Tinted.refl word).append (h.append (ih rest))
      · exact .keep (ih s)

/-- A painted text is the text with escape sequences put in. -/
theorem tinted_paint (h : HasNumbers style) (s : Text) : Tinted color (style.paint color s) s := by
  cases hcolor : color with
  | false => exact Tinted.refl s
  | true =>
    have hopening : Tinted true style.opening [] := tinted_opening rfl h
    have hreset : Tinted true Style.reset [] := tinted_escape rfl (by decide)
    have hinside := tinted_insertAfter hopening Style.reset s
    have hwhole := (hopening.append hinside).append hreset
    rwa [List.nil_append, List.append_nil] at hwhole

end

end ReleaseLag.Proofs.Cli
