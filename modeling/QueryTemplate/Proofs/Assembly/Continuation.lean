import QueryTemplate.Proofs.Assembly.Counts
import QueryTemplate.Proofs.Assembly.Reading

/-!
# Assemblies behind other assemblies

What an assembly does depends on what went before in two ways only: whether a block is open, and how
many arguments, characters and counts are already behind.
-/

namespace QueryTemplate

/-!
## Assemblies that go on

Outside of every block, an assembly goes on as it would begin: what follows is read as if nothing
were before it, and what was emitted, taken and counted before comes in front. An error is that of
the beginning, with its index behind the arguments already taken and its position behind the
characters already read.
-/

/-- An error behind some arguments and some characters more. -/
def AssemblyError.shifted (args chars : Nat) : AssemblyError → AssemblyError
  | nestedBlock position => nestedBlock (position + chars)
  | unmatchedClose position => unmatchedClose (position + chars)
  | missingArgument => missingArgument
  | kindlessPlaceholder position => kindlessPlaceholder (position + chars)
  | argument index fault => argument (index + args) fault

/-- One block more is counted behind what was counted before. -/
theorem Stats.add_countBlock (s t : Stats) (suppressed : Bool) :
    (s.add t).countBlock suppressed = s.add (t.countBlock suppressed) := by
  cases suppressed <;> rfl

namespace Assembly

/-- The assembly `s` with what `done` has emitted, taken and counted in front. -/
def onto (done s : Assembly) : Assembly where
  emitted := s.emitted ++ done.emitted
  region := s.region
  remaining := s.remaining
  index := s.index + done.index
  stats := done.stats.add s.stats

/-- The outcome of steps with `done` in front, and behind `chars` characters more. -/
def continued (done : Assembly) (chars : Nat) :
    Except Stopped Assembly → Except Stopped Assembly
  | .ok s => .ok (onto done s)
  | .error (stats, e) => .error (done.stats.add stats, e.shifted done.index chars)

variable {r : Renderer} (done : Assembly)

@[simp] theorem onto_region (s : Assembly) : (onto done s).region = s.region := rfl

@[simp] theorem onto_remaining (s : Assembly) : (onto done s).remaining = s.remaining := rfl

theorem text_onto (s : Assembly) : (onto done s).text = done.text ++ s.text := by
  show (s.emitted ++ done.emitted).reverse.flatten = _
  rw [List.reverse_append, List.flatten_append]
  rfl

/-- At the beginning, nothing but what is in front is there. -/
theorem onto_start {done : Assembly} (h : done.region = .outside) (args : List Value) :
    onto done (start args) = done.withArguments args := by
  obtain ⟨emitted, region, remaining, index, stats⟩ := done
  obtain rfl : region = .outside := h
  have hindex : 0 + index = index := Nat.zero_add index
  show Assembly.mk _ _ _ (0 + index) _ = _
  rw [hindex]
  rfl

theorem put_onto (s : Assembly) (piece : Text) :
    (onto done s).put piece = onto done (s.put piece) := by
  unfold put
  cases h : s.region with
  | outside => simp only [onto_region, h]; rfl
  | inside pieces suppressed => simp only [onto_region, h]; rfl

theorem take_onto (s : Assembly) (rest : List Value) :
    (onto done s).take rest = onto done (s.take rest) := by
  have hindex : s.index + done.index + 1 = s.index + 1 + done.index := Nat.add_right_comm _ _ _
  show Assembly.mk _ _ rest (s.index + done.index + 1) _ = _
  rw [hindex]
  rfl

theorem closeBlock_onto (s : Assembly) : (onto done s).closeBlock = onto done s.closeBlock := by
  unfold closeBlock
  cases h : s.region with
  | outside => simp only [onto_region, h]
  | inside pieces suppressed =>
    have hstats : (done.stats.add s.stats).countBlock suppressed =
        done.stats.add (s.stats.countBlock suppressed) := Stats.add_countBlock _ _ _
    cases suppressed with
    | true => simp only [onto, h, hstats, if_true]
    | false => simp only [onto, h, hstats, Bool.false_eq_true, if_false, List.append_assoc]

theorem skip_onto (s : Assembly) : (onto done s).skip r = (s.skip r).map (onto done) := by
  unfold skip
  cases h : s.region with
  | inside pieces suppressed => simp only [onto_region, h]; rfl
  | outside =>
    simp only [onto_region, h]
    cases r.options.skipOutsideBlock <;> rfl

/-- A placeholder with its argument goes on behind another assembly. -/
theorem substitute_onto (s : Assembly) (kind : Option Placeholder) (position chars : Nat)
    (v : Value) (rest : List Value) :
    (onto done s).substitute r kind (position + chars) v rest =
      continued done chars (s.substitute r kind position v rest) := by
  unfold substitute
  simp only [take_onto, skip_onto]
  by_cases hskip : v.isSkip = true
  · rw [if_pos hskip, if_pos hskip]
    cases (s.take rest).skip r <;> rfl
  · rw [if_neg hskip, if_neg hskip]
    cases kind with
    | none => rfl
    | some k =>
      cases hrender : r.render k v with
      | error fault => simp only [hrender]; rfl
      | ok piece => simp only [hrender, put_onto]; rfl

/-- A token does behind another assembly what it does at the beginning. -/
theorem step_onto (s : Assembly) (t : Token) (chars : Nat) :
    (onto done s).step r (t.shifted chars) = continued done chars (s.step r t) := by
  obtain ⟨lexeme, position⟩ := t
  cases lexeme with
  | literal text =>
    show Except.ok ((onto done s).put text) = _
    rw [put_onto]
    rfl
  | blockOpen => cases h : s.region <;> simp only [step, Token.shifted, onto_region, h] <;> rfl
  | blockClose =>
    cases h : s.region with
    | outside => simp only [step, Token.shifted, onto_region, h]; rfl
    | inside pieces suppressed =>
      simp only [step, Token.shifted, onto_region, h, closeBlock_onto]
      rfl
  | placeholder kind =>
    cases h : s.remaining with
    | nil => simp only [step, Token.shifted, onto_remaining, h]; rfl
    | cons v rest =>
      simp only [step, Token.shifted, onto_remaining, h]
      exact substitute_onto done s kind position chars v rest

/-- Tokens do behind another assembly what they do at the beginning. -/
theorem foldlM_onto (s : Assembly) (tokens : List Token) (chars : Nat) :
    (tokens.map (Token.shifted chars)).foldlM (step r) (onto done s) =
      continued done chars (tokens.foldlM (step r) s) := by
  induction tokens generalizing s with
  | nil => rfl
  | cons t rest ih =>
    rw [List.map_cons, List.foldlM_cons, List.foldlM_cons, step_onto]
    cases s.step r t with
    | error stopped => rfl
    | ok mid => exact ih mid

end Assembly

/-!
## Assemblies one after another

An assembler that is used again keeps its counts and nothing else. Each of its assemblies has the
outcome it has by itself, whatever went before and however that ended, and adds to the counts what
it counts by itself.
-/

section

/-- Behind nothing, an error is the same. -/
theorem AssemblyError.shifted_zero (e : AssemblyError) : e.shifted 0 0 = e := by
  cases e <;> rfl

/-- Behind nothing, tokens are the same. -/
theorem Token.map_shifted_zero (tokens : List Token) : tokens.map (Token.shifted 0) = tokens :=
  List.map_id tokens

namespace Assembly

variable {r : Renderer} {before : Stats} {args : List Value} {tokens : List Token}

/-- An assembly that begins with counts is one by itself behind these counts. -/
theorem onto_resume (before : Stats) (args : List Value) :
    onto (resume before []) (start args) = resume before args :=
  onto_start rfl args

/-- All tokens, where something was counted before. -/
theorem foldlM_resume (r : Renderer) (before : Stats) (tokens : List Token) (args : List Value) :
    tokens.foldlM (step r) (resume before args) =
      continued (resume before []) 0 (after r args tokens) := by
  have honto := foldlM_onto (r := r) (resume before []) (start args) tokens 0
  rwa [Token.map_shifted_zero, onto_resume] at honto

/-- Behind counts only, the query is the same. -/
theorem query_onto_resume (before : Stats) (s : Assembly) :
    (onto (resume before []) s).query = s.query := by
  rw [query, text_onto]
  rfl

end Assembly

open Assembly

/-- An assembly has the same outcome whatever was counted before, and adds its counts to that. -/
theorem assembleFrom_eq (r : Renderer) (before : Stats) (tokens : List Token) (args : List Value) :
    assembleFrom r before tokens args =
      (before.add (assemble r tokens args).1, (assemble r tokens args).2) := by
  rw [assembleFrom, run, foldlM_resume]
  cases hafter : after r args tokens with
  | ok s =>
    rw [assemble_of_after hafter]
    show ((onto (resume before []) s).closeBlock.stats,
      Except.ok (onto (resume before []) s).closeBlock.query) = _
    rw [closeBlock_onto, query_onto_resume]
    rfl
  | error stopped =>
    obtain ⟨stats, e⟩ := stopped
    rw [assemble_of_stopped hafter]
    show (before.add stats, Except.error (e.shifted 0 0)) = _
    rw [AssemblyError.shifted_zero]

/-- There is an outcome for every assembly. -/
theorem length_assembleEach (r : Renderer) (before : Stats)
    (calls : List (List Token × List Value)) :
    (assembleEach r before calls).length = calls.length := by
  induction calls generalizing before with
  | nil => rfl
  | cons call rest ih => rw [assembleEach, List.length_cons, List.length_cons, ih]

/-- Each assembly begins with the counts of the one before it, the first with those given. -/
theorem assembleEach_getElem? (r : Renderer) (before : Stats)
    {calls : List (List Token × List Value)} {i : Nat} {tokens : List Token} {args : List Value}
    (h : calls[i]? = some (tokens, args)) :
    ∃ earlier, (before :: (assembleEach r before calls).map Prod.fst)[i]? = some earlier ∧
      (assembleEach r before calls)[i]? = some (assembleFrom r earlier tokens args) := by
  induction calls generalizing before i with
  | nil => cases h
  | cons call rest ih =>
    cases i with
    | zero =>
      cases h
      exact ⟨before, rfl, rfl⟩
    | succ i =>
      obtain ⟨earlier, hbefore, houtcome⟩ := ih (assembleFrom r before call.1 call.2).1 h
      exact ⟨earlier, hbefore, houtcome⟩

/-- Of several assemblies one after another, each has the outcome that it has by itself, and the
counts behind it are those before it and those it has by itself. An assembly that goes through
counts all its placeholders, and every block that is opened as emitted or dropped. One that is
stopped counts the placeholders before the token that stops it, that token as well if it is a
placeholder for which an argument is left, and the blocks that are closed before it. -/
theorem assembleEach_adds_counts (r : Renderer) (before : Stats)
    (calls : List (List Token × List Value)) :
    (assembleEach r before calls).length = calls.length ∧
    ∀ (i : Nat) (tokens : List Token) (args : List Value), calls[i]? = some (tokens, args) →
      ∃ (earlier added : Stats) (outcome : Except AssemblyError Text),
        assemble r tokens args = (added, outcome) ∧
        (before :: (assembleEach r before calls).map Prod.fst)[i]? = some earlier ∧
        (assembleEach r before calls)[i]? = some (earlier.add added, outcome) ∧
        (∀ sql, outcome = .ok sql →
          added.placeholders = Token.placeholderCount tokens ∧
            added.blocks = Token.openCount tokens) ∧
        ∀ e, outcome = .error e → ∃ j t, StopsAt r args tokens j t (added, e) ∧
          added.placeholders = Token.placeholderCount (tokens.take j) +
            (if t.lexeme.isPlaceholder ∧ Token.placeholderCount (tokens.take j) < args.length then 1
              else 0) ∧
          added.blocks = Token.closeCount (tokens.take j) := by
  refine ⟨length_assembleEach r before calls, fun i tokens args hcall => ?_⟩
  obtain ⟨earlier, hearlier, houtcome⟩ := assembleEach_getElem? r before hcall
  -- an assembly with counts before it is the one without, and the counts are added
  rw [assembleFrom_eq] at houtcome
  cases hassemble : assemble r tokens args with
  | mk added outcome =>
    rw [hassemble] at houtcome
    refine ⟨earlier, added, outcome, rfl, hearlier, houtcome, ?_, ?_⟩
    · rintro sql rfl
      exact counts_of_assemble_ok hassemble
    · rintro e rfl
      exact counts_of_assemble_error hassemble

/-- An assembly that goes through, one that is stopped in a block that is to be dropped, one that
runs out of arguments, and the first one again. -/
theorem assembleEach_adds_counts_of_four :
    let tokens : List Token :=
      [⟨.blockOpen, 0⟩, ⟨.placeholder (some .integer), 1⟩, ⟨.blockClose, 3⟩, ⟨.literal ['x'], 4⟩]
    let calls : List (List Token × List Value) :=
      [(tokens, [.int 1]), (tokens.take 2 ++ tokens, [.skip]), (tokens, []), (tokens, [.int 1])]
    calls[3]? = some (tokens, [.int 1]) ∧
      (assembleEach ⟨⟨.loose, .refuse, true⟩, backslashEscaper⟩ .zero calls)[3]? =
        some (⟨3, 2, 0⟩, .ok ['1', 'x']) := by
  intro tokens calls
  obtain ⟨earlier, added, outcome, hassemble, hearlier, houtcome, -, -⟩ :=
    (assembleEach_adds_counts ⟨⟨.loose, .refuse, true⟩, backslashEscaper⟩ .zero calls).2 3 tokens
      [.int 1] rfl
  have hadded : assemble ⟨⟨.loose, .refuse, true⟩, backslashEscaper⟩ tokens [.int 1] =
      (⟨1, 1, 0⟩, .ok ['1', 'x']) := by
    decide +kernel
  have hbefore : (Stats.zero :: (assembleEach ⟨⟨.loose, .refuse, true⟩, backslashEscaper⟩ .zero
      calls).map Prod.fst)[3]? = some ⟨2, 1, 0⟩ := by
    decide +kernel
  rw [hadded] at hassemble
  rw [hbefore] at hearlier
  cases hassemble
  cases hearlier
  exact ⟨rfl, houtcome⟩

end

end QueryTemplate
