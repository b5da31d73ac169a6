import Mathlib.Computability.Language

/-!
# Steps until the bytes end

A reader of a message repeats one step that reads something off the front of its bytes, until there
are none left. The words that the step reads off are a language, and the bytes that are read to
their end are the concatenations of such words. The fuel of the repetition does not matter if it is
more than there are bytes, since each step takes at least one.

## Main definitions

- `untilEnd`: the repetition of a step
- `Shortens`: each step takes something
- `Reads`: the words that a step reads off

## Main results

- `Shortens.untilEnd_eq`: more fuel makes no difference
- `invariant_untilEnd`: what each step preserves holds at the end
- `Reads.untilEnd_iff`: what is read to its end is a concatenation of what a step reads off
-/

namespace ChainFeed.Wire

open scoped Computability

variable {σ ε : Type} {step : σ → List UInt8 → Except ε (σ × List UInt8)}
  {language : Language UInt8} {out next : σ} {bytes rest : List UInt8} {fuel fuel' : Nat}

/-- Repeats a step that reads off the front of its bytes until they end. -/
def untilEnd (step : σ → List UInt8 → Except ε (σ × List UInt8)) :
    (fuel : Nat) → σ → List UInt8 → Except ε σ
  | 0, out, _ => .ok out
  | _ + 1, out, [] => .ok out
  | fuel + 1, out, bytes =>
    match step out bytes with
    | .error fault => .error fault
    | .ok (out, rest) => untilEnd step fuel out rest

/-- A step leaves less than it is given. -/
def Shortens (step : σ → List UInt8 → Except ε (σ × List UInt8)) : Prop :=
  ∀ out bytes next rest, step out bytes = .ok (next, rest) → rest.length < bytes.length

/-- A step reads a word of a language off its bytes, and reads off each of them whatever stands
behind it. -/
structure Reads (step : σ → List UInt8 → Except ε (σ × List UInt8)) (language : Language UInt8) :
    Prop where
  split : ∀ {out bytes next rest}, step out bytes = .ok (next, rest) →
    ∃ front ∈ language, bytes = front ++ rest
  append : ∀ {front}, front ∈ language → ∀ out, ∃ next, ∀ rest,
    step out (front ++ rest) = .ok (next, rest)

/-- Each step takes a byte, so fuel for more steps than there are bytes is never used up. -/
theorem Shortens.untilEnd_eq (h : Shortens step) (hfuel : bytes.length < fuel)
    (hfuel' : bytes.length < fuel') :
    untilEnd step fuel out bytes = untilEnd step fuel' out bytes := by
  induction fuel generalizing fuel' out bytes with
  | zero => exact absurd hfuel (Nat.not_lt_zero _)
  | succ fuel ih =>
    obtain ⟨fuel', rfl⟩ : ∃ f, fuel' = f + 1 := ⟨fuel' - 1, by omega⟩
    cases bytes with
    | nil => rfl
    | cons b bytes =>
      simp only [untilEnd]
      cases hstep : step out (b :: bytes) with
      | error fault => rfl
      | ok result =>
        obtain ⟨next, rest⟩ := result
        have hshorter := h _ _ _ _ hstep
        exact ih (by omega) (by omega)

/-- What each step preserves holds at the end, whatever the bytes are. -/
theorem invariant_untilEnd {holds : σ → Prop}
    (hstep : ∀ {out bytes next rest}, holds out → step out bytes = .ok (next, rest) → holds next)
    (h : holds out) {final : σ} (hread : untilEnd step fuel out bytes = .ok final) :
    holds final := by
  induction fuel generalizing out bytes with
  | zero =>
    obtain rfl := Except.ok.inj hread
    exact h
  | succ fuel ih =>
    cases bytes with
    | nil =>
      obtain rfl := Except.ok.inj hread
      exact h
    | cons b bytes =>
      simp only [untilEnd] at hread
      split at hread
      · cases hread
      · rename_i next rest hnext
        exact ih (hstep h hnext) hread

theorem Reads.mem_kstar_of_untilEnd (h : Reads step language) (hshort : Shortens step)
    (hfuel : bytes.length < fuel) {final : σ} (hread : untilEnd step fuel out bytes = .ok final) :
    bytes ∈ language∗ := by
  induction fuel generalizing out bytes with
  | zero => exact absurd hfuel (Nat.not_lt_zero _)
  | succ fuel ih =>
    cases bytes with
    | nil => exact Language.nil_mem_kstar language
    | cons b bytes =>
      simp only [untilEnd] at hread
      split at hread
      · cases hread
      · rename_i next rest hstep
        have hshorter := hshort _ _ _ _ hstep
        have hrest : rest ∈ language∗ := ih (by omega) hread
        obtain ⟨front, hfront, heq⟩ := h.split hstep
        rw [heq]
        exact mul_kstar_le_kstar (a := language) (Language.append_mem_mul hfront hrest)

theorem Reads.untilEnd_of_mem_kstar (h : Reads step language) (hshort : Shortens step)
    (hfuel : bytes.length < fuel) (hmem : bytes ∈ language∗) :
    ∃ final, untilEnd step fuel out bytes = .ok final := by
  obtain ⟨parts, rfl, hparts⟩ := Language.mem_kstar.mp hmem
  clear hmem
  induction parts generalizing fuel out with
  | nil => exact ⟨out, by cases fuel <;> rfl⟩
  | cons part parts ih =>
    obtain ⟨next, hnext⟩ := h.append (hparts part List.mem_cons_self) out
    have hstep := hnext parts.flatten
    have hshorter := hshort _ _ _ _ hstep
    rw [List.flatten_cons] at hfuel ⊢
    obtain ⟨fuel, rfl⟩ : ∃ f, fuel = f + 1 := ⟨fuel - 1, by omega⟩
    obtain ⟨final, hfinal⟩ : ∃ final, untilEnd step fuel next parts.flatten = .ok final :=
      ih (fun part hpart => hparts part (List.mem_cons_of_mem _ hpart)) (by omega)
    refine ⟨final, ?_⟩
    cases hbytes : part ++ parts.flatten with
    | nil => simp [hbytes] at hshorter
    | cons b bytes =>
      rw [hbytes] at hstep
      simp only [untilEnd, hstep, hfinal]

/-- Bytes are read to their end just if they are a concatenation of what a step reads off. -/
theorem Reads.untilEnd_iff (h : Reads step language) (hshort : Shortens step)
    (hfuel : bytes.length < fuel) :
    (∃ final, untilEnd step fuel out bytes = .ok final) ↔ bytes ∈ language∗ :=
  ⟨fun ⟨_, hread⟩ => h.mem_kstar_of_untilEnd hshort hfuel hread,
    h.untilEnd_of_mem_kstar hshort hfuel⟩

end ChainFeed.Wire
