import Mathlib.Tactic.Common
import QueryTemplate.Compile

/-!
# What a token can do to an assembly

A token that does not stop an assembly does one of six things to it: it adds a piece, opens or
closes a block, marks the block for the skip marker, leaves a placeholder out, or fills it.
`Stepped` lists the six with all that they ask for; everything that holds of every step is proved by
going through the list.
-/

namespace QueryTemplate

/-- The skip marker is one value. -/
theorem Value.isSkip_iff {v : Value} : v.isSkip = true ↔ v = .skip := by
  cases v <;> simp [Value.isSkip]

namespace Assembly

/-- Whether a block is open. -/
def isInside (s : Assembly) : Bool :=
  match s.region with
  | .outside => false
  | .inside _ _ => true

/-- Where no block is open, the assembly stands outside. -/
theorem isInside_eq_false_iff {s : Assembly} : s.isInside = false ↔ s.region = .outside := by
  unfold isInside
  cases s.region <;> simp

/-- Where a block is open, its pieces are held back. -/
theorem isInside_eq_true_iff {s : Assembly} :
    s.isInside = true ↔ ∃ pieces suppressed, s.region = .inside pieces suppressed := by
  unfold isInside
  cases s.region <;> simp

@[simp] theorem put_index (s : Assembly) (piece : Text) : (s.put piece).index = s.index := by
  unfold put
  split <;> rfl

@[simp] theorem put_remaining (s : Assembly) (piece : Text) :
    (s.put piece).remaining = s.remaining := by
  unfold put
  split <;> rfl

@[simp] theorem put_isInside (s : Assembly) (piece : Text) :
    (s.put piece).isInside = s.isInside := by
  unfold put
  cases h : s.region <;> simp [isInside, h]

@[simp] theorem take_index (s : Assembly) (rest : List Value) :
    (s.take rest).index = s.index + 1 := rfl

@[simp] theorem take_remaining (s : Assembly) (rest : List Value) :
    (s.take rest).remaining = rest := rfl

@[simp] theorem take_region (s : Assembly) (rest : List Value) :
    (s.take rest).region = s.region := rfl

@[simp] theorem take_isInside (s : Assembly) (rest : List Value) :
    (s.take rest).isInside = s.isInside := rfl

@[simp] theorem closeBlock_index (s : Assembly) : s.closeBlock.index = s.index := by
  unfold closeBlock
  split <;> rfl

@[simp] theorem closeBlock_remaining (s : Assembly) : s.closeBlock.remaining = s.remaining := by
  unfold closeBlock
  split <;> rfl

@[simp] theorem closeBlock_region (s : Assembly) : s.closeBlock.region = .outside := by
  unfold closeBlock
  split
  · assumption
  · rfl

/-- What a token does to an assembly that it does not stop. -/
inductive Stepped (r : Renderer) (s : Assembly) : Token → Assembly → Prop
  /-- A literal stands for itself. -/
  | literal (text : Text) (position : Nat) : Stepped r s ⟨.literal text, position⟩ (s.put text)
  /-- A block opens where none is open. -/
  | opened (position : Nat) (outside : s.region = .outside) :
      Stepped r s ⟨.blockOpen, position⟩ { s with region := .inside [] false }
  /-- The block that is open ends. -/
  | closed (position : Nat) (inside : s.isInside = true) :
      Stepped r s ⟨.blockClose, position⟩ s.closeBlock
  /-- The skip marker comes up in a block. -/
  | marked {kind : Option Placeholder} (position : Nat) {rest : List Value} {pieces : List Text}
      {suppressed : Bool} (due : s.remaining = .skip :: rest)
      (inside : s.region = .inside pieces suppressed) :
      Stepped r s ⟨.placeholder kind, position⟩ { s.take rest with region := .inside pieces true }
  /-- The skip marker comes up outside of every block, where the options leave it out. -/
  | leftOut {kind : Option Placeholder} (position : Nat) {rest : List Value}
      (due : s.remaining = .skip :: rest) (outside : s.region = .outside)
      (policy : r.options.skipOutsideBlock = .leaveOut) :
      Stepped r s ⟨.placeholder kind, position⟩ (s.take rest)
  /-- A placeholder is filled with the text of its argument. -/
  | filled {kind : Placeholder} (position : Nat) {v : Value} {rest : List Value} {piece : Text}
      (due : s.remaining = v :: rest) (noSkip : v.isSkip = false)
      (rendered : r.render kind v = .ok piece) :
      Stepped r s ⟨.placeholder (some kind), position⟩ ((s.take rest).put piece)

/-- A placeholder with its argument marks the block, is left out, or is filled. -/
theorem Stepped.of_substitute {r : Renderer} {s s' : Assembly} {kind : Option Placeholder}
    {position : Nat} {v : Value} {rest : List Value} (due : s.remaining = v :: rest)
    (h : s.substitute r kind position v rest = .ok s') :
    Stepped r s ⟨.placeholder kind, position⟩ s' := by
  unfold substitute at h
  -- the skip marker is looked for before the kind of the placeholder is
  cases hskip : v.isSkip with
  | true =>
    obtain rfl := Value.isSkip_iff.mp hskip
    cases hregion : s.region with
    | outside =>
      cases hpolicy : r.options.skipOutsideBlock with
      | refuse => simp [Value.isSkip, skip, hregion, hpolicy] at h
      | leaveOut =>
        simp only [Value.isSkip, skip, take_region, hregion, hpolicy, if_true,
          Except.ok.injEq] at h
        rw [← h]
        exact .leftOut position due hregion hpolicy
    | inside pieces suppressed =>
      simp only [Value.isSkip, skip, take_region, hregion, if_true, Except.ok.injEq] at h
      rw [← h]
      exact .marked position due hregion
  | false =>
    cases kind with
    | none => simp [hskip] at h
    | some k =>
      cases hrender : r.render k v with
      | error fault => simp [hskip, hrender] at h
      | ok piece =>
        simp only [hskip, hrender, Bool.false_eq_true, if_false, Except.ok.injEq] at h
        rw [← h]
        exact .filled position due hskip hrender

/-- A step does one of the six things, and each of them is done where its conditions hold. -/
theorem step_eq_ok_iff {r : Renderer} {s s' : Assembly} {t : Token} :
    s.step r t = .ok s' ↔ Stepped r s t s' := by
  constructor
  · intro h
    obtain ⟨lexeme, position⟩ := t
    cases lexeme with
    | literal text =>
      rw [← Except.ok.inj h]
      exact .literal text position
    | blockOpen =>
      cases hregion : s.region with
      | outside =>
        simp only [step, hregion, Except.ok.injEq] at h
        rw [← h]
        exact .opened position hregion
      -- a block inside of a block is refused
      | inside pieces suppressed => simp [step, hregion] at h
    | blockClose =>
      cases hregion : s.region with
      -- so is the end of a block that is not open
      | outside => simp [step, hregion] at h
      | inside pieces suppressed =>
        simp only [step, hregion, Except.ok.injEq] at h
        rw [← h]
        exact .closed position (isInside_eq_true_iff.mpr ⟨pieces, suppressed, hregion⟩)
    | placeholder kind =>
      cases hremaining : s.remaining with
      | nil => simp [step, hremaining] at h
      | cons v rest =>
        simp only [step, hremaining] at h
        exact .of_substitute hremaining h
  · intro h
    cases h with
    | literal text position => rfl
    | opened position outside => simp only [step, outside]
    | closed position inside =>
      obtain ⟨pieces, suppressed, hregion⟩ := isInside_eq_true_iff.mp inside
      simp only [step, hregion]
    | marked position due inside =>
      simp [step, due, substitute, skip, Value.isSkip, inside]
    | leftOut position due outside policy =>
      simp [step, due, substitute, skip, Value.isSkip, outside, policy]
    | filled position due noSkip rendered =>
      simp [step, due, substitute, noSkip, rendered]

end Assembly

end QueryTemplate
