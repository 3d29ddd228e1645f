import ReleaseLag.Text.Basic

/-!
# `ReleaseLag.Text.Name`: names

Template fields, loop variables and statement parameters share one notion of
name: a letter of ASCII or an underscore, then letters, digits and
underscores. `takeName` cuts the longest name off the front of a text.
-/

set_option autoImplicit false

namespace ReleaseLag.Text

/-- What a name may begin with. -/
def isNameStart (c : Char) : Bool :=
  c.isAlpha || c = '_'

/-- What a name may go on with. -/
def isNameChar (c : Char) : Bool :=
  c.isAlphanum || c = '_'

/-- The whole text is one name. -/
def isName : Text → Bool
  | [] => false
  | c :: rest => isNameStart c && rest.all isNameChar

/-- What begins a name can go on with one. -/
theorem isNameChar_of_isNameStart {c : Char} (h : isNameStart c = true) : isNameChar c = true := by
  simp only [isNameStart, Bool.or_eq_true] at h
  simp only [isNameChar, Char.isAlphanum, Bool.or_eq_true]
  exact h.imp_left .inl

/-- A name holds nothing but characters that names go on with. -/
theorem isNameChar_of_mem {name : Text} (h : isName name = true) :
    ∀ c ∈ name, isNameChar c = true := by
  cases name with
  | nil => simp [isName] at h
  | cons d name =>
    obtain ⟨hstart, hchars⟩ := Bool.and_eq_true_iff.mp h
    exact List.forall_mem_cons.mpr ⟨isNameChar_of_isNameStart hstart, List.all_eq_true.mp hchars⟩

/-- The longest name at the front of a text, and what follows it. -/
def takeName : Text → Option (Text × Text)
  | [] => none
  | c :: rest =>
    if isNameStart c then some (c :: rest.takeWhile isNameChar, rest.dropWhile isNameChar)
    else none

/-- A name is found where one begins. -/
theorem isSome_takeName (s : Text) : (takeName s).isSome = s.head?.any isNameStart := by
  cases s with
  | nil => rfl
  | cons c rest =>
    rw [takeName]
    split
    · next hstart => simp [hstart]
    · next hstart => simp [hstart]

/-- A name and what follows it are the text. -/
theorem takeName_spell {s name rest : Text} (h : takeName s = some (name, rest)) :
    name ++ rest = s := by
  cases s with
  | nil => simp [takeName] at h
  | cons c s =>
    rw [takeName] at h
    split at h
    · simp only [Option.some.injEq, Prod.mk.injEq] at h
      obtain ⟨rfl, rfl⟩ := h
      simp
    · simp at h

/-- What is cut off is a name. -/
theorem isName_of_takeName {s name rest : Text} (h : takeName s = some (name, rest)) :
    isName name = true := by
  cases s with
  | nil => simp [takeName] at h
  | cons c s =>
    rw [takeName] at h
    split at h
    · next hstart =>
      simp only [Option.some.injEq, Prod.mk.injEq] at h
      obtain ⟨rfl, -⟩ := h
      simp [isName, hstart]
    · simp at h

/-- What follows a name that is cut off cannot go on with it. -/
theorem apart_of_takeName {s name rest : Text} (h : takeName s = some (name, rest)) :
    ∀ c ∈ rest.head?, isNameChar c = false := by
  cases s with
  | nil => simp [takeName] at h
  | cons d s =>
    rw [takeName] at h
    split at h
    · simp only [Option.some.injEq, Prod.mk.injEq] at h
      obtain ⟨-, rfl⟩ := h
      intro c hc
      have hhead := List.head?_dropWhile_not isNameChar s
      rw [Option.mem_def.mp hc] at hhead
      simpa using hhead
    · simp at h

/-- A name is cut off whole, if what follows it cannot go on with it. -/
theorem takeName_append {name rest : Text} (hname : isName name = true)
    (hrest : ∀ c ∈ rest.head?, isNameChar c = false) :
    takeName (name ++ rest) = some (name, rest) := by
  cases name with
  | nil => simp [isName] at hname
  | cons c name =>
    simp only [isName, Bool.and_eq_true, List.all_eq_true] at hname
    obtain ⟨hstart, hchars⟩ := hname
    obtain ⟨htake, hdrop⟩ := cut_append hchars hrest
    rw [List.cons_append, takeName, if_pos hstart, htake, hdrop]

end ReleaseLag.Text
