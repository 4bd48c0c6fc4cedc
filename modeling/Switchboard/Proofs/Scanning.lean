import Mathlib.Tactic.Common

/-! Scans of a text from left to right. Where a token starts it is taken whole, and any other
character stands for itself. Every text has a scan, and it has one alone where no two tokens start
at one place. -/
namespace Switchboard.Text

/-- What a text is made of. -/
inductive Part (τ : Type) where
  | letter (c : Char)
  | token (token : τ)
deriving DecidableEq, Repr

section

variable {τ : Type} (write : τ → List Char) (Known : τ → Prop)

def Part.written : Part τ → List Char
  | letter c => [c]
  | token sign => write sign

def Starts (text : List Char) : Prop := ∃ token, Known token ∧ write token <+: text

/-- The scan of a text from left to right finds the parts. -/
inductive Scans : List Char → List (Part τ) → Prop where
  | done : Scans [] []
  | token {token : τ} {rest : List Char} {parts : List (Part τ)} (known : Known token)
      (after : Scans rest parts) : Scans (write token ++ rest) (.token token :: parts)
  | letter {c : Char} {rest : List Char} {parts : List (Part τ)}
      (plain : ¬Starts write Known (c :: rest)) (after : Scans rest parts) :
      Scans (c :: rest) (.letter c :: parts)

/-- No known token is written as nothing, and no text starts with two. -/
structure Distinct : Prop where
  filled : ∀ token, Known token → write token ≠ []
  single : ∀ token other text, Known token → Known other →
    write token <+: text → write other <+: text → token = other

end

namespace Scans

variable {τ : Type} {write : τ → List Char} {Known : τ → Prop} {token : τ} {c : Char}
  {text rest : List Char} {parts others : List (Part τ)}

theorem of_nil (distinct : Distinct write Known) (scans : Scans write Known [] parts) :
    parts = [] := by
  generalize nothing : [] = text at scans
  cases scans with
  | done => rfl
  | token known =>
    cases distinct.filled _ known (List.append_eq_nil_iff.mp nothing.symm).1
  | letter => cases nothing

theorem of_token (distinct : Distinct write Known) (known : Known token)
    (scans : Scans write Known (write token ++ rest) parts) :
    ∃ others, parts = .token token :: others ∧ Scans write Known rest others := by
  generalize whole : write token ++ rest = text at scans
  have starts : write token <+: text := ⟨rest, whole⟩
  cases scans with
  | done => cases distinct.filled _ known (List.append_eq_nil_iff.mp whole).1
  | token knownAlso after =>
    cases distinct.single _ _ _ known knownAlso starts (List.prefix_append _ _)
    rw [List.append_cancel_left whole]
    exact ⟨_, rfl, after⟩
  | letter plain => exact absurd ⟨token, known, starts⟩ plain

theorem of_letter (plain : ¬Starts write Known (c :: rest))
    (scans : Scans write Known (c :: rest) parts) :
    ∃ others, parts = .letter c :: others ∧ Scans write Known rest others := by
  generalize whole : c :: rest = text at scans plain
  cases scans with
  | done => cases whole
  | token known => exact absurd ⟨_, known, List.prefix_append _ _⟩ plain
  | letter _ after =>
    cases whole
    exact ⟨_, rfl, after⟩

/-- A text can be scanned, -/
theorem exists_parts (filled : ∀ token, Known token → write token ≠ []) (text : List Char) :
    ∃ parts, Scans write Known text parts := by
  -- A token is followed by a shorter text, which need not be the tail.
  induction size : text.length using Nat.strongRecOn generalizing text with
  | ind _ ih =>
    subst size
    cases text with
    | nil => exact ⟨[], .done⟩
    | cons c rest =>
      by_cases starts : Starts write Known (c :: rest)
      · obtain ⟨token, known, after, whole⟩ := starts
        have some := List.length_pos_iff.mpr (filled token known)
        have shorter : after.length < (c :: rest).length := by
          rw [← whole, List.length_append]
          omega
        obtain ⟨parts, scans⟩ := ih after.length shorter after rfl
        exact ⟨_, whole ▸ scans.token known⟩
      · obtain ⟨parts, scans⟩ := ih rest.length (Nat.lt_succ_self _) rest rfl
        exact ⟨_, scans.letter starts⟩

/-- and in one way. -/
theorem unique (distinct : Distinct write Known) (scans : Scans write Known text parts)
    (also : Scans write Known text others) : others = parts := by
  induction scans generalizing others with
  | done => exact also.of_nil distinct
  | token known after ih =>
    obtain ⟨behind, rfl, afterAlso⟩ := also.of_token distinct known
    rw [ih afterAlso]
  | letter plain after ih =>
    obtain ⟨behind, rfl, afterAlso⟩ := also.of_letter plain
    rw [ih afterAlso]

/-- Nothing is lost. -/
theorem written (scans : Scans write Known text parts) :
    parts.flatMap (Part.written write) = text := by
  induction scans with
  | done => rfl
  | token known after ih | letter plain after ih => rw [List.flatMap_cons, ih]; rfl

end Scans

end Switchboard.Text
