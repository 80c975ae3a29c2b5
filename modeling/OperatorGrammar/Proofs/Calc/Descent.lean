import OperatorGrammar.Proofs.Calc.Lexicon

/-!
# The calculator as a recursive descent

What the calculator makes of a line is what an evaluator makes of it that has one function for each
of sums, products and factors, and knows nothing of levels.
-/

namespace OperatorGrammar.Calc

/-- A line, and the name that it goes by in faults. -/
structure Line where
  name : String
  text : String

namespace Line

def place (line : Line) (token : Token Symbol) : Place :=
  ⟨line.name, line.text, token.offset, token.length⟩

def endToken (line : Line) : Token Symbol := ⟨.eof, none, width line.text.toList⟩

/-- The next token, which is the end of the line if there is no other. -/
def next (line : Line) (tokens : List (Token Symbol)) : Token Symbol :=
  tokens.head?.getD line.endToken

@[simp]
theorem next_nil (line : Line) : line.next [] = line.endToken := rfl

@[simp]
theorem next_cons (line : Line) (token : Token Symbol) (rest : List (Token Symbol)) :
    line.next (token :: rest) = token := rfl

/-- The next token starts no expression. -/
def refuse (line : Line) (tokens : List (Token Symbol)) : Fault Symbol :=
  let token := line.next tokens
  .noStarter token.kind token.literal (line.place token)

/-- Fails if the next token is not the expected one. -/
def expect (line : Line) (expected : Symbol) (tokens : List (Token Symbol)) :
    Except (Fault Symbol) Unit :=
  let token := line.next tokens
  if token.kind = expected then .ok ()
  else .error (.mismatch expected token.kind token.literal (line.place token))

end Line

/-- What is left of some tokens. -/
abbrev Rest (tokens : List (Token Symbol)) :=
  { rest : List (Token Symbol) // rest.length ≤ tokens.length }

/-- What is left of some tokens behind the first one. -/
abbrev Tail (tokens : List (Token Symbol)) :=
  { rest : List (Token Symbol) // rest.length < tokens.length }

mutual

/-- A product, and more products behind plus and minus. -/
def sum (line : Line) (tokens : List (Token Symbol)) :
    Except (Fault Symbol) (Int × Tail tokens) := do
  let (left, ⟨rest, hrest⟩) ← product line tokens
  let (value, ⟨rest', hrest'⟩) ← moreProducts line left rest
  return (value, ⟨rest', by omega⟩)
termination_by (tokens.length, 2)

/-- Adds and subtracts products for as long as there is a sign in front of them. -/
def moreProducts (line : Line) (left : Int) (tokens : List (Token Symbol)) :
    Except (Fault Symbol) (Int × Rest tokens) :=
  match tokens with
  | [] => .ok (left, ⟨[], by simp⟩)
  | token :: rest =>
    if token.kind = .plus ∨ token.kind = .minus then do
      let (right, ⟨rest, hrest⟩) ← product line rest
      let (value, ⟨rest, hrest'⟩) ← moreProducts line (← combine token.kind left right) rest
      return (value, ⟨rest, by simp; omega⟩)
    else .ok (left, ⟨token :: rest, by simp⟩)
termination_by (tokens.length, 0)

/-- A factor, and more factors behind star and slash. -/
def product (line : Line) (tokens : List (Token Symbol)) :
    Except (Fault Symbol) (Int × Tail tokens) := do
  let (left, ⟨rest, hrest⟩) ← factor line tokens
  let (value, ⟨rest', hrest'⟩) ← moreFactors line left rest
  return (value, ⟨rest', by omega⟩)
termination_by (tokens.length, 1)

/-- Multiplies and divides by factors for as long as there is an operator in front of them. -/
def moreFactors (line : Line) (left : Int) (tokens : List (Token Symbol)) :
    Except (Fault Symbol) (Int × Rest tokens) :=
  match tokens with
  | [] => .ok (left, ⟨[], by simp⟩)
  | token :: rest =>
    if token.kind = .star ∨ token.kind = .slash then do
      let (right, ⟨rest, hrest⟩) ← factor line rest
      let (value, ⟨rest, hrest'⟩) ← moreFactors line (← combine token.kind left right) rest
      return (value, ⟨rest, by simp; omega⟩)
    else .ok (left, ⟨token :: rest, by simp⟩)
termination_by (tokens.length, 0)

/-- A number, a sum in parentheses, or a sign with the sum behind it. -/
def factor (line : Line) (tokens : List (Token Symbol)) :
    Except (Fault Symbol) (Int × Tail tokens) :=
  match tokens with
  | [] => .error (line.refuse [])
  | token :: rest =>
    match token.kind with
    | .number => do return (← readNumber (token.literal.getD ""), ⟨rest, by simp⟩)
    | .leftParen => do
      let (value, ⟨rest, hrest⟩) ← sum line rest
      line.expect .rightParen rest
      return (value, ⟨rest.tail, by simp; omega⟩)
    | .plus => do
      let (value, ⟨rest, hrest⟩) ← sum line rest
      return (value, ⟨rest, by simp; omega⟩)
    | .minus => do
      let (value, ⟨rest, hrest⟩) ← sum line rest
      return (← negate value, ⟨rest, by simp; omega⟩)
    | _ => .error (line.refuse (token :: rest))
termination_by (tokens.length, 0)

end

/-- A sum, and nothing behind it. -/
def Line.evaluate (line : Line) (tokens : List (Token Symbol)) : Except (Fault Symbol) Int := do
  let (value, ⟨rest, _⟩) ← sum line tokens
  line.expect .eof rest
  return value

/-! ## What is left, without the bound on its length -/

/-- A value and the tokens that are left behind it. -/
abbrev Reading := Except (Fault Symbol) (Int × List (Token Symbol))

def forget {P : List (Token Symbol) → Prop}
    (reading : Except (Fault Symbol) (Int × { rest : List (Token Symbol) // P rest })) : Reading :=
  reading.map fun found ↦ (found.1, found.2.1)

theorem of_forget_eq_ok {P : List (Token Symbol) → Prop}
    {reading : Except (Fault Symbol) (Int × { rest : List (Token Symbol) // P rest })} {value : Int}
    {rest : List (Token Symbol)} (h : forget reading = .ok (value, rest)) : P rest := by
  cases reading with
  | error fault => cases h
  | ok found =>
    obtain ⟨-, rfl⟩ := Prod.mk.inj (Except.ok.inj h)
    exact found.2.2

section

variable (line : Line) (left : Int) {token : Token Symbol} (tokens rest : List (Token Symbol))

theorem forget_sum : forget (sum line tokens) =
    forget (product line tokens) >>= fun found ↦
      forget (moreProducts line found.1 found.2) := by
  rw [sum]
  rcases product line tokens with fault | ⟨left, rest, hrest⟩
  · rfl
  · dsimp only [bind, Except.bind, forget, Except.map]
    rcases moreProducts line left rest with fault | found <;> rfl

theorem forget_product : forget (product line tokens) =
    forget (factor line tokens) >>= fun found ↦ forget (moreFactors line found.1 found.2) := by
  rw [product]
  rcases factor line tokens with fault | ⟨left, rest, hrest⟩
  · rfl
  · dsimp only [bind, Except.bind, forget, Except.map]
    rcases moreFactors line left rest with fault | found <;> rfl

theorem forget_moreProducts_of_sign (h : token.kind = .plus ∨ token.kind = .minus) :
    forget (moreProducts line left (token :: rest)) =
      forget (product line rest) >>= fun found ↦ combine token.kind left found.1 >>= fun value ↦
        forget (moreProducts line value found.2) := by
  rw [moreProducts, if_pos h]
  rcases product line rest with fault | ⟨right, rest, hrest⟩
  · rfl
  · dsimp only [bind, Except.bind, forget, Except.map]
    rcases combine token.kind left right with fault | value
    · rfl
    · dsimp only
      rcases moreProducts line value rest with fault | found <;> rfl

theorem forget_moreFactors_of_operator (h : token.kind = .star ∨ token.kind = .slash) :
    forget (moreFactors line left (token :: rest)) =
      forget (factor line rest) >>= fun found ↦ combine token.kind left found.1 >>= fun value ↦
        forget (moreFactors line value found.2) := by
  rw [moreFactors, if_pos h]
  rcases factor line rest with fault | ⟨right, rest, hrest⟩
  · rfl
  · dsimp only [bind, Except.bind, forget, Except.map]
    rcases combine token.kind left right with fault | value
    · rfl
    · dsimp only
      rcases moreFactors line value rest with fault | found <;> rfl

theorem forget_moreProducts_of_stop
    (h : ¬((line.next tokens).kind = .plus ∨ (line.next tokens).kind = .minus)) :
    forget (moreProducts line left tokens) = .ok (left, tokens) := by
  cases tokens with
  | nil =>
    rw [moreProducts]
    rfl
  | cons token rest =>
    rw [Line.next_cons] at h
    rw [moreProducts, if_neg h]
    rfl

theorem forget_moreFactors_of_stop
    (h : ¬((line.next tokens).kind = .star ∨ (line.next tokens).kind = .slash)) :
    forget (moreFactors line left tokens) = .ok (left, tokens) := by
  cases tokens with
  | nil =>
    rw [moreFactors]
    rfl
  | cons token rest =>
    rw [Line.next_cons] at h
    rw [moreFactors, if_neg h]
    rfl

theorem forget_factor_of_number (h : token.kind = .number) :
    forget (factor line (token :: rest)) =
      readNumber (token.literal.getD "") >>= fun value ↦ .ok (value, rest) := by
  rw [factor]
  simp only [h]
  rcases readNumber (token.literal.getD "") with fault | value <;> rfl

theorem forget_factor_of_leftParen (h : token.kind = .leftParen) :
    forget (factor line (token :: rest)) =
      forget (sum line rest) >>= fun found ↦ line.expect .rightParen found.2 >>= fun _ ↦
        .ok (found.1, found.2.tail) := by
  rw [factor]
  simp only [h]
  rcases sum line rest with fault | ⟨value, rest, hrest⟩
  · rfl
  · dsimp only [bind, Except.bind, forget, Except.map]
    rcases line.expect .rightParen rest with fault | value <;> rfl

theorem forget_factor_of_plus (h : token.kind = .plus) :
    forget (factor line (token :: rest)) = forget (sum line rest) := by
  rw [factor]
  simp only [h]
  rcases sum line rest with fault | ⟨value, rest, hrest⟩ <;> rfl

theorem forget_factor_of_minus (h : token.kind = .minus) :
    forget (factor line (token :: rest)) =
      forget (sum line rest) >>= fun found ↦ negate found.1 >>= fun value ↦
        .ok (value, found.2) := by
  rw [factor]
  simp only [h]
  rcases sum line rest with fault | ⟨value, rest, hrest⟩
  · rfl
  · dsimp only [bind, Except.bind, forget, Except.map]
    rcases negate value with fault | value <;> rfl

theorem forget_factor_of_opening_eq_none (h : opening (line.next tokens).kind = none) :
    forget (factor line tokens) = .error (line.refuse tokens) := by
  cases tokens with
  | nil =>
    rw [factor]
    rfl
  | cons token rest =>
    rw [factor]
    change opening token.kind = none at h
    cases hkind : token.kind <;> simp only [hkind] at h ⊢ <;> first | rfl | cases h

theorem Line.evaluate_eq : line.evaluate tokens =
    forget (sum line tokens) >>= fun found ↦ line.expect .eof found.2 >>= fun _ ↦
      .ok found.1 := by
  rw [Line.evaluate]
  rcases sum line tokens with fault | ⟨value, rest, hrest⟩ <;> rfl

/-- Behind a product there is no further operator of a product. -/
theorem stop_of_forget_moreFactors {value : Int}
    (h : forget (moreFactors line left tokens) = .ok (value, rest)) :
    ¬((line.next rest).kind = .star ∨ (line.next rest).kind = .slash) := by
  induction hlength : tokens.length using Nat.strongRecOn generalizing left tokens with
  | ind length ih =>
    cases tokens with
    | nil =>
      rw [forget_moreFactors_of_stop line left [] (by simp [Line.endToken])] at h
      obtain ⟨-, rfl⟩ := Prod.mk.inj (Except.ok.inj h)
      simp [Line.endToken]
    | cons token tokens =>
      by_cases hoperator : token.kind = .star ∨ token.kind = .slash
      · rw [forget_moreFactors_of_operator line left tokens hoperator] at h
        rcases hfactor : forget (factor line tokens) with fault | ⟨right, rest'⟩
        · rw [hfactor] at h
          cases h
        · have hlt := of_forget_eq_ok hfactor
          rw [hfactor] at h
          dsimp only [bind, Except.bind] at h
          rcases hcombine : combine token.kind left right with fault | value'
          · rw [hcombine] at h
            cases h
          · rw [hcombine] at h
            exact ih rest'.length (by simp_all; omega) value' rest' h rfl
      · rw [forget_moreFactors_of_stop line left (token :: tokens) hoperator] at h
        obtain ⟨-, rfl⟩ := Prod.mk.inj (Except.ok.inj h)
        exact hoperator

theorem stop_of_forget_product {value : Int}
    (h : forget (product line tokens) = .ok (value, rest)) :
    ¬((line.next rest).kind = .star ∨ (line.next rest).kind = .slash) := by
  rw [forget_product] at h
  rcases hfactor : forget (factor line tokens) with fault | found
  · rw [hfactor] at h
    cases h
  · rw [hfactor] at h
    exact stop_of_forget_moreFactors line found.1 found.2 rest h

end

end OperatorGrammar.Calc
