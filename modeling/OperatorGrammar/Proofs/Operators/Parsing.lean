import Mathlib
import OperatorGrammar.Proofs.Operators.Realizes
import OperatorGrammar.Proofs.Operators.Unambiguous

/-!
# Parsing finds the well-formed trees

A parse at some level ends with a value exactly if the tokens ahead begin with a tree that is
well-formed at this level and cannot be continued. There is at most one such tree, and the value is
the value of it. Every parse comes to an end.
-/

namespace OperatorGrammar

open Grammar

variable {τ π ε : Type}

/-- The tokens ahead of a lexer begin with a tree that may stand where level `min` is asked for, and
the token behind it does not continue it. -/
structure Operators.Begins (ops : Operators τ π) (min : π) (lx : Lexer τ) (tree : Tree τ)
    (rest : Lexer τ) : Prop where
  wellFormed : ops.WellFormed min tree
  takes : lx.Takes tree.yield rest
  complete : ∃ token next, rest.Delivers token next ∧ ops.binds min token.kind = false ∧
    ops.Closed tree token.kind

theorem Operators.Begins.advance_peek {ops : Operators τ π} {min : π} {lx rest : Lexer τ}
    {tree : Tree τ} (h : ops.Begins min lx tree rest) : rest.peek.2.advance = rest.advance := by
  obtain ⟨token, next, hdelivers, -, -⟩ := h.complete
  rw [hdelivers.peek_eq, hdelivers.advance_putBack]

theorem Operators.Begins.closed {ops : Operators τ π} {min : π} {lx rest next : Lexer τ}
    {tree : Tree τ} {token : Token τ} (h : ops.Begins min lx tree rest)
    (hdelivers : rest.Delivers token next) :
    ops.binds min token.kind = false ∧ ops.Closed tree token.kind := by
  obtain ⟨token', next', hdelivers', hbinds, hclosed⟩ := h.complete
  obtain ⟨rfl, rfl⟩ := hdelivers.unique hdelivers'
  exact ⟨hbinds, hclosed⟩

theorem Operators.Begins.unique [DecidableEq τ] {ops : Operators τ π} {min : π} {lx : Lexer τ}
    {tree tree' : Tree τ} {rest rest' : Lexer τ} (h : ops.Begins min lx tree rest)
    (h' : ops.Begins min lx tree' rest') : tree = tree' ∧ rest = rest' := by
  have hlonger {tree tree' : Tree τ} {rest rest' : Lexer τ} (h : ops.Begins min lx tree rest)
      (h' : ops.Begins min lx tree' rest') {more : List (Token τ)}
      (hyield : tree'.yield = tree.yield ++ more) (hmore : rest.Takes more rest') :
      tree = tree' := by
    obtain ⟨token, next, hdelivers, hbinds, hclosed⟩ := h.complete
    obtain ⟨token', next', hdelivers', hbinds', hclosed'⟩ := h'.complete
    have hall : tree.yield ++ (more ++ [token']) = tree'.yield ++ [token'] := by
      rw [hyield, List.append_assoc]
    refine (Operators.eq_of_yield_append_eq h.wellFormed ?_ h'.wellFormed ?_ hall).1
    · intro first hfirst
      cases hmore with
      | nil =>
        obtain ⟨rfl, -⟩ := hdelivers.unique hdelivers'
        obtain rfl : token = first := Option.some.inj hfirst
        exact ⟨hbinds, hclosed⟩
      | cons hnext _ =>
        obtain ⟨rfl, -⟩ := hdelivers.unique hnext
        obtain rfl : token = first := Option.some.inj hfirst
        exact ⟨hbinds, hclosed⟩
    · intro first hfirst
      obtain rfl : token' = first := Option.some.inj hfirst
      exact ⟨hbinds', hclosed'⟩
  have htree : tree = tree' := by
    rcases h.takes.append_or_append h'.takes with ⟨more, hyield, hmore⟩ | ⟨more, hyield, hmore⟩
    · exact hlonger h h' hyield hmore
    · exact (hlonger h' h hyield hmore).symm
  subst htree
  exact ⟨rfl, h.takes.unique h'.takes⟩

section

variable [DecidableEq τ] {g : Grammar τ π ε} {ops : Operators τ π} {meaning : Meaning τ ε}
  (h : g.Realizes ops meaning)

/-! ## Every well-formed tree is found -/

namespace Grammar

theorem andThen_climb {min : π} {last rest : Lexer τ} (result : Except (Fault τ) ε)
    (hadvance : ∀ value, result = .ok value → last.advance = rest.advance) :
    andThen (some (result, last)) (g.climbLimit min) =
      andThen (some (result, last)) fun value _ ↦ g.climbLimit min value rest := by
  cases result with
  | error fault => rfl
  | ok value =>
    simp only [andThen_ok]
    exact climbLimit_congr g min value (hadvance value rfl)

end Grammar

namespace Grammar.Realizes

include h

/-- An expression that nothing continues is followed by the token behind it, put back. -/
theorem parseLimit_of_stop {min : π} {lx rest next : Lexer τ} {token : Token τ}
    {result : Except (Fault τ) ε}
    (hparse : ∃ last, g.parseLimit min lx =
      andThen (some (result, last)) fun value _ ↦ g.climbLimit min value rest)
    (hrest : rest.Delivers token next) (hbinds : ops.binds min token.kind = false) :
    ∃ last, g.parseLimit min lx = some (result, last) ∧
      ∀ value, result = .ok value → last = next.putBack := by
  obtain ⟨last, hparse⟩ := hparse
  cases result with
  | error fault => exact ⟨last, hparse, by simp⟩
  | ok value =>
    refine ⟨next.putBack, ?_, fun _ _ ↦ rfl⟩
    calc
      g.parseLimit min lx = g.climbLimit min value rest := hparse
      _ = some (.ok value, next.putBack) :=
        h.climbLimit_of_binds_eq_false min value hrest hbinds

/-- What is made of an operand that nothing continues is continued by the token behind it. -/
theorem andThen_operand {min level : π} {lx rest next : Lexer τ} {token : Token τ}
    {result : Except (Fault τ) ε} (f : ε → Except (Fault τ) ε)
    (hparse : ∃ last, g.parseLimit level lx =
      andThen (some (result, last)) fun value _ ↦ g.climbLimit level value rest)
    (hrest : rest.Delivers token next) (hbinds : ops.binds level token.kind = false) :
    ∃ last, andThen (andThen (g.parseLimit level lx) fun value lx ↦ some (f value, lx))
        (g.climbLimit min) =
      andThen (some (result >>= f, last)) fun value _ ↦ g.climbLimit min value rest := by
  obtain ⟨last, hparse, hlast⟩ := h.parseLimit_of_stop hparse hrest hbinds
  refine ⟨last, ?_⟩
  calc
    andThen (andThen (g.parseLimit level lx) fun value lx ↦ some (f value, lx))
        (g.climbLimit min) = andThen (some (result >>= f, last)) (g.climbLimit min) := by
      rw [hparse, andThen_some_some]
    _ = andThen (some (result >>= f, last)) fun value _ ↦ g.climbLimit min value rest := by
      apply andThen_climb
      intro value hvalue
      cases result with
      | error fault => cases hvalue
      | ok operand => rw [hlast operand rfl, hrest.advance_putBack]

/-- A parse that meets the tokens of a well-formed tree goes on with its value, unless the tree
could be continued at its right edge. -/
theorem parseLimit_of_takes {min : π} {tree : Tree τ} (htree : ops.WellFormed min tree)
    {lx rest next : Lexer τ} {token : Token τ} (hend : ops.Inert lx.sentinel)
    (htakes : lx.Takes tree.yield rest) (hrest : rest.Delivers token next)
    (hclosed : ops.Closed tree token.kind) :
    ∃ last, g.parseLimit min lx =
      andThen (some (tree.value meaning, last)) fun value _ ↦ g.climbLimit min value rest := by
  induction htree generalizing lx rest next token with
  | @leaf min leafToken hleaf =>
    obtain _ | ⟨hfirst, _ | _⟩ := htakes
    have hkind := (hfirst.sameText.sentinel_eq ▸ hend.ne_of_opening hleaf)
    refine ⟨rest, ?_⟩
    rw [h.parseLimit_of_opening min hfirst hleaf hkind]
    exact andThen_climb _ fun _ _ ↦ rfl
  | @unary min level operator operand hunary hoperand ih =>
    obtain _ | ⟨hfirst, htakes⟩ := htakes
    obtain ⟨hbinds, hclosed⟩ := (Operators.closed_unary hunary).1 hclosed
    have hsame := hfirst.sameText.sentinel_eq
    have hparse := ih (hsame ▸ hend) htakes hrest hclosed
    rw [h.parseLimit_of_opening min hfirst hunary (hsame ▸ hend.ne_of_opening hunary)]
    exact h.andThen_operand (meaning.unary operator) hparse hrest hbinds
  | @bracket min level opener closer inner hbracket hinner ih =>
    obtain _ | ⟨hfirst, htakes⟩ := htakes
    obtain ⟨mid, htakes, _ | ⟨hcloser, _ | _⟩⟩ := Lexer.takes_append.1 htakes
    have hinert : ops.Inert closer.kind := ops.close_inert hbracket
    have hsame := hfirst.sameText.sentinel_eq
    obtain ⟨last, hparse, hlast⟩ := h.parseLimit_of_stop
      (ih (hsame ▸ hend) htakes hcloser (Operators.closed_of_inert hinert inner)) hcloser
      (hinert.binds_eq level)
    rw [h.parseLimit_of_opening min hfirst hbracket (hsame ▸ hend.ne_of_opening hbracket),
      Opening.run, hparse, Tree.value]
    cases hvalue : inner.value meaning with
    | error fault => exact ⟨last, rfl⟩
    | ok value =>
      obtain rfl := hlast value hvalue
      refine ⟨rest, ?_⟩
      simp only [andThen_ok, Lexer.expect_of_delivers (Lexer.delivers_putBack hcloser), if_true]
      exact andThen_climb _ fun _ _ ↦ rfl
  | @binary min level operator left right hbinary hbinds hleft hright hclosedLeft ihleft ihright =>
    obtain ⟨mid, hfirst, htakes⟩ := Lexer.takes_append.1 htakes
    obtain _ | ⟨hoperator, htakes⟩ := htakes
    obtain ⟨hstop, hclosed⟩ := (Operators.closed_binary hbinary).1 hclosed
    have hmid := hfirst.sameText.sentinel_eq
    have hsame := hoperator.sameText.sentinel_eq.trans hmid
    obtain ⟨last, hparse⟩ := ihleft hend hfirst hoperator hclosedLeft
    rw [hparse, Tree.value]
    cases left.value meaning with
    | error fault => exact ⟨last, rfl⟩
    | ok value =>
      rw [andThen_ok, h.climbLimit_of_following min value hoperator hbinds hbinary
        (hsame ▸ hend.ne_of_following hbinary)]
      exact h.andThen_operand (meaning.binary operator value)
        (ihright (hsame ▸ hend) htakes hrest hclosed) hrest hstop
  | @trailing min operator operand htrailing hbinds hoperand hclosedOperand ih =>
    obtain ⟨mid, hfirst, htakes⟩ := Lexer.takes_append.1 htakes
    obtain _ | ⟨hoperator, _ | _⟩ := htakes
    have hmid := hfirst.sameText.sentinel_eq
    have hsame := hoperator.sameText.sentinel_eq.trans hmid
    obtain ⟨last, hparse⟩ := ih hend hfirst hoperator hclosedOperand
    rw [hparse, Tree.value]
    cases operand.value meaning with
    | error fault => exact ⟨last, rfl⟩
    | ok value =>
      refine ⟨rest, ?_⟩
      rw [andThen_ok, h.climbLimit_of_following min value hoperator hbinds htrailing
        (hsame ▸ hend.ne_of_following htrailing)]
      exact andThen_climb _ fun _ _ ↦ rfl

end Grammar.Realizes

/-! ## Nothing but well-formed trees is found -/

/-- The parse comes to an end, and any value is that of a tree that the tokens begin with. -/
def Grammar.Finds (ops : Operators τ π) (meaning : Meaning τ ε) (min : π) (lx : Lexer τ)
    (parsed : Option (Parsed τ ε)) : Prop :=
  ∃ result last, parsed = some (result, last) ∧ ∀ value, result = .ok value →
    ∃ tree rest, ops.Begins min lx tree rest ∧ tree.value meaning = .ok value ∧
      rest.peek.2 = last

namespace Grammar

omit [DecidableEq τ] in
theorem finds_error (ops : Operators τ π) (meaning : Meaning τ ε) (min : π) (lx last : Lexer τ)
    (fault : Fault τ) : Finds ops meaning min lx (some (.error fault, last)) :=
  ⟨.error fault, last, rfl, by simp⟩

omit [DecidableEq τ] in
/-- What is found of the rest is found of the whole. -/
theorem finds_andThen {min : π} {lx last : Lexer τ} {result : Except (Fault τ) ε}
    {next : ε → Lexer τ → Option (Parsed τ ε)}
    (hnext : ∀ value, result = .ok value → Finds ops meaning min lx (next value last)) :
    Finds ops meaning min lx (andThen (some (result, last)) next) := by
  cases result with
  | error fault => exact finds_error ops meaning min lx last fault
  | ok value => exact hnext value rfl

/-- What is made of an operand, with the operand's tree and what is behind it. -/
theorem finds_operand {min level : π} {start lx : Lexer τ} (f : ε → Except (Fault τ) ε)
    (hoperand : Finds ops meaning level lx (g.parseLimit level lx))
    (hnext : ∀ operand rest value result, ops.Begins level lx operand rest →
      operand.value meaning = .ok value → f value = .ok result →
        Finds ops meaning min start (g.climbLimit min result rest)) :
    Finds ops meaning min start
      (andThen (andThen (g.parseLimit level lx) fun value lx ↦ some (f value, lx))
        (g.climbLimit min)) := by
  obtain ⟨parsed, last, hparse, htree⟩ := hoperand
  rw [hparse, andThen_some_some]
  apply finds_andThen
  intro result hresult
  cases parsed with
  | error fault => cases hresult
  | ok value =>
    obtain ⟨operand, rest, hbegins, hvalue, rfl⟩ := htree value rfl
    rw [climbLimit_congr g min result hbegins.advance_peek]
    exact hnext operand rest value result hbegins hvalue hresult

namespace Realizes

include h

/-- The loop keeps the tree read so far well-formed, and closed for the next token. -/
theorem finds_climb {bound : Nat}
    (hparse : ∀ lx : Lexer τ, lx.remaining < bound → ops.Inert lx.sentinel →
      ∀ min, Finds ops meaning min lx (g.parseLimit min lx))
    {min : π} {start lx : Lexer τ} {tree : Tree τ} {value : ε} (hbound : lx.remaining ≤ bound)
    (hend : ops.Inert lx.sentinel) (htree : ops.WellFormed min tree)
    (htakes : start.Takes tree.yield lx) (hvalue : tree.value meaning = .ok value)
    (hclosed : ∀ token next, lx.Delivers token next → ops.Closed tree token.kind) :
    Finds ops meaning min start (g.climbLimit min value lx) := by
  induction hremaining : lx.remaining using Nat.strongRecOn generalizing lx tree value with
  | ind remaining ih =>
    rcases hadvance : lx.advance with ⟨fault | kind, next⟩
    · rw [climbLimit_of_error g min value hadvance]
      exact finds_error ops meaning min start next fault
    obtain ⟨token, rfl, hdelivers⟩ := Lexer.delivers_of_advance hadvance
    cases hbinds : ops.binds min token.kind with
    | false =>
      rw [h.climbLimit_of_binds_eq_false min value hdelivers hbinds]
      refine ⟨.ok value, next.putBack, rfl, ?_⟩
      rintro _ ⟨⟩
      have hbegins : ops.Begins min start tree lx :=
        ⟨htree, htakes, token, next, hdelivers, hbinds, hclosed token next hdelivers⟩
      exact ⟨tree, lx, hbegins, hvalue, by rw [hdelivers.peek_eq]⟩
    | true =>
      have hsame := hdelivers.sameText.sentinel_eq
      cases hfollowing : ops.following token.kind with
      | none =>
        rw [h.climbLimit_of_following_eq_none min value hdelivers hbinds hfollowing]
        exact finds_error ops meaning min start next _
      | some following =>
        have hkind := hend.ne_of_following hfollowing
        have hlt := hdelivers.remaining_lt hkind
        rw [h.climbLimit_of_following min value hdelivers hbinds hfollowing (hsame ▸ hkind)]
        cases following with
        | trailing =>
          apply finds_andThen
          intro result hresult
          apply ih next.remaining (by omega) (by omega) (hsame ▸ hend)
            (.trailing hfollowing hbinds htree (hclosed token next hdelivers))
            (Lexer.takes_append.2 ⟨lx, htakes, .cons hdelivers (.nil next)⟩) _ _ rfl
          · rw [Tree.value, hvalue]
            exact hresult
          · intro token' _ _
            exact Operators.closed_trailing token tree token'.kind
        | binary level =>
          apply finds_operand _ (hparse next (by omega) (hsame ▸ hend) level)
          intro right rest operand result hright hoperand hresult
          have hle := hright.takes.remaining_le
          have hrest := hright.takes.sameText.sentinel_eq.trans hsame
          apply ih rest.remaining (by omega) (by omega) (hrest ▸ hend)
            (.binary hfollowing hbinds htree hright.wellFormed (hclosed token next hdelivers))
            (Lexer.takes_append.2 ⟨lx, htakes, .cons hdelivers hright.takes⟩) _ _ rfl
          · rw [Tree.value, hvalue, hoperand]
            exact hresult
          · intro token' next' hdelivers'
            exact (Operators.closed_binary hfollowing).2 (hright.closed hdelivers')

theorem finds_parseLimit (min : π) {lx : Lexer τ} (hend : ops.Inert lx.sentinel) :
    Finds ops meaning min lx (g.parseLimit min lx) := by
  induction hremaining : lx.remaining using Nat.strongRecOn generalizing lx min with
  | ind remaining ih =>
    have hparse : ∀ lx : Lexer τ, lx.remaining < remaining → ops.Inert lx.sentinel →
        ∀ min, Finds ops meaning min lx (g.parseLimit min lx) :=
      fun lx hlt hend min ↦ ih lx.remaining hlt min hend rfl
    rcases hadvance : lx.advance with ⟨fault | kind, next⟩
    · rw [parseLimit_of_error g min hadvance]
      exact finds_error ops meaning min lx next fault
    obtain ⟨token, rfl, hdelivers⟩ := Lexer.delivers_of_advance hadvance
    have hsame := hdelivers.sameText.sentinel_eq
    cases hopening : ops.opening token.kind with
    | none =>
      rw [h.parseLimit_of_opening_eq_none min hdelivers hopening]
      exact finds_error ops meaning min lx next _
    | some opening =>
      have hkind := hend.ne_of_opening hopening
      have hlt := hdelivers.remaining_lt hkind
      rw [h.parseLimit_of_opening min hdelivers hopening (hsame ▸ hkind)]
      cases opening with
      | leaf =>
        apply finds_andThen
        intro result hresult
        exact h.finds_climb hparse (by omega) (hsame ▸ hend) (.leaf hopening)
          (.cons hdelivers (.nil next)) hresult
          fun token' _ _ ↦ Operators.closed_leaf token token'.kind
      | unary level =>
        apply finds_operand _ (hparse next (by omega) (hsame ▸ hend) level)
        intro operand rest value result hoperand hvalue hresult
        have hle := hoperand.takes.remaining_le
        have hrest := hoperand.takes.sameText.sentinel_eq.trans hsame
        apply h.finds_climb hparse (by omega) (hrest ▸ hend)
          (.unary hopening hoperand.wellFormed) (.cons hdelivers hoperand.takes)
        · rw [Tree.value, hvalue]
          exact hresult
        · intro token' next' hdelivers'
          exact (Operators.closed_unary hopening).2 (hoperand.closed hdelivers')
      | bracket level close =>
        obtain ⟨parsed, last, hinner, htree⟩ := hparse next (by omega) (hsame ▸ hend) level
        rw [Opening.run, hinner]
        cases parsed with
        | error fault => exact finds_error ops meaning min lx last fault
        | ok value =>
          obtain ⟨inner, rest, hbegins, hvalue, rfl⟩ := htree value rfl
          obtain ⟨closer, after, hcloser, -, -⟩ := hbegins.complete
          have hpeek : rest.peek.2.Delivers closer after :=
            ⟨hbegins.advance_peek.trans hcloser.1, hcloser.2, hcloser.3⟩
          rw [andThen_ok, Lexer.expect_of_delivers hpeek]
          by_cases hclose : closer.kind = close
          · subst hclose
            have hle := hbegins.takes.remaining_le
            have hle' := hcloser.remaining_le
            have hrest := hbegins.takes.sameText.sentinel_eq.trans hsame
            have hafter := hcloser.sameText.sentinel_eq.trans hrest
            simp only [if_true]
            apply finds_andThen
            intro result hresult
            apply h.finds_climb hparse (by omega) (hafter ▸ hend)
              (.bracket hopening hbegins.wellFormed)
              (.cons hdelivers (Lexer.takes_append.2 ⟨rest, hbegins.takes, .cons hcloser (.nil _)⟩))
            · rw [Tree.value, hvalue]
              exact hresult
            · intro token' _ _
              exact Operators.closed_bracket token closer inner token'.kind
          · rw [if_neg hclose]
            exact finds_error ops meaning min lx after _

end Realizes

end Grammar

/-! ## Parsing and trees -/

include h in
/-- Levels, comparator and values are arbitrary. Every parse ends. It ends with a value exactly if
the tokens ahead begin with a well-formed tree that cannot be continued and has this value; it ends
with the first fault of such a tree if the tree has no value. There is at most one such tree, and no
other well-formed tree has the same tokens. -/
theorem parseExpression_eq_ok_iff_begins (min : π) (lx : Lexer τ) (hend : ops.Inert lx.sentinel) :
    (∃ result last, g.parseExpression min lx = some (result, last)) ∧
    (∀ value last, g.parseExpression min lx = some (.ok value, last) ↔
      ∃ tree rest, ops.Begins min lx tree rest ∧ tree.value meaning = .ok value ∧
        rest.peek.2 = last) ∧
    (∀ tree rest fault, ops.Begins min lx tree rest → tree.value meaning = .error fault →
      ∃ last, g.parseExpression min lx = some (.error fault, last)) ∧
    (∀ tree rest tree' rest', ops.Begins min lx tree rest → ops.Begins min lx tree' rest' →
      tree = tree' ∧ rest = rest') ∧
    ∀ tree tree', ops.WellFormed min tree → ops.WellFormed min tree' →
      tree.yield = tree'.yield → tree = tree' := by
  have hfound (tree : Tree τ) (rest : Lexer τ) (hbegins : ops.Begins min lx tree rest) :
      ∃ last, g.parseLimit min lx = some (tree.value meaning, last) ∧
        ∀ value, tree.value meaning = .ok value → last = rest.peek.2 := by
    obtain ⟨token, next, hdelivers, hbinds, hclosed⟩ := hbegins.complete
    rw [hdelivers.peek_eq]
    exact h.parseLimit_of_stop
      (h.parseLimit_of_takes hbegins.wellFormed hend hbegins.takes hdelivers hclosed)
      hdelivers hbinds
  obtain ⟨result, last, hparse, htree⟩ := h.finds_parseLimit min hend
  have hrun : g.parseExpression min lx = g.parseLimit min lx := by
    rw [hparse]
    exact parseExpression_eq_some g min hparse
  rw [hrun]
  refine ⟨⟨result, last, hparse⟩, ?_, ?_, ?_, fun _ _ ↦ Operators.eq_of_yield_eq⟩
  · intro value last'
    constructor
    · intro hok
      rw [hparse, Option.some.injEq, Prod.mk.injEq] at hok
      rw [← hok.2]
      exact htree value hok.1
    · rintro ⟨tree, rest, hbegins, hvalue, rfl⟩
      obtain ⟨last', hparse', hlast⟩ := hfound tree rest hbegins
      rw [hparse', hvalue, hlast value hvalue]
  · intro tree rest fault hbegins hfault
    obtain ⟨last', hparse', -⟩ := hfound tree rest hbegins
    exact ⟨last', by rw [hparse', hfault]⟩
  · exact fun tree rest tree' rest' ↦ Operators.Begins.unique

end

/-- The sign takes everything to its right, since its operand is parsed at the lowest level. -/
theorem parse_sign_of_difference :
    ∃ (ops : Operators String Nat) (lexicon : Lexicon String) (last : Lexer String),
      Lexicon.ofRules? "end" [⟨"x", "x"⟩, ⟨"-", "-"⟩, ⟨"!", "!"⟩] = .ok lexicon ∧
      (ops.notated ⟨id, id⟩ "end").parseExpression 0 (.ofText lexicon none "-x-x!") =
        some (.ok "(- (- [x x] ([x x] !)))", last) := by
  let ops : Operators String Nat :=
    { precedence kind := if kind = "-" then some 1 else if kind = "!" then some 2 else none
      order := compare
      opening kind :=
        if kind = "x" then some .leaf else if kind = "-" then some (.unary 0) else none
      following kind :=
        if kind = "-" then some (.binary 1) else if kind = "!" then some .trailing else none
      close_inert := by
        intro kind level close h
        split at h
        · cases h
        · split at h <;> cases h }
  let lexicon : Lexicon String :=
    ⟨"end", .alt (.group 1 (.literal ['x']))
      (.alt (.group 2 (.literal ['-'])) (.group 3 (.literal ['!']))),
      [(1, "x"), (2, "-"), (3, "!")]⟩
  have hrules : Lexicon.ofRules? "end" [⟨"x", "x"⟩, ⟨"-", "-"⟩, ⟨"!", "!"⟩] = .ok lexicon := by cbv
  let x (offset : Nat) : Tree String := .leaf ⟨"x", some "x", offset⟩
  let tree : Tree String := .unary ⟨"-", some "-", 0⟩
    (.binary ⟨"-", some "-", 2⟩ (x 1) (.trailing ⟨"!", some "!", 4⟩ (x 3)))
  let lx : Lexer String := .ofText lexicon none "-x-x!"
  have hwellFormed : ops.WellFormed 0 tree :=
    .unary rfl (.binary rfl rfl (.leaf rfl)
      (.trailing rfl rfl (.leaf rfl) (Operators.closed_leaf _ _)) (Operators.closed_leaf _ _))
  have htakes : lx.Takes tree.yield lx.advance.2.advance.2.advance.2.advance.2.advance.2 :=
    .cons (Lexer.delivers_advance (by cbv) (by cbv)) <|
    .cons (Lexer.delivers_advance (by cbv) (by cbv)) <|
    .cons (Lexer.delivers_advance (by cbv) (by cbv)) <|
    .cons (Lexer.delivers_advance (by cbv) (by cbv)) <|
    .cons (Lexer.delivers_advance (by cbv) (by cbv)) (.nil _)
  have hinert : ops.Inert "end" := ⟨rfl, rfl, rfl⟩
  have hend : lx.advance.2.advance.2.advance.2.advance.2.advance.2.Delivers ⟨"end", none, 5⟩ _ :=
    Lexer.delivers_advance (by cbv) (by cbv)
  have hbegins : ops.Begins 0 lx tree _ :=
    ⟨hwellFormed, htakes, _, _, hend, hinert.binds_eq 0, Operators.closed_of_inert hinert tree⟩
  have hvalue : tree.value (Notated.meaning ⟨id, id⟩) = .ok "(- (- [x x] ([x x] !)))" := by cbv
  have hparse := parseExpression_eq_ok_iff_begins (Notated.realizes ⟨id, id⟩ ops "end") 0 lx hinert
  exact ⟨ops, lexicon, _, hrules, (hparse.2.1 _ _).2 ⟨tree, _, hbegins, hvalue, rfl⟩⟩

end OperatorGrammar
