import OperatorGrammar.Proofs.Lexer.Places
import OperatorGrammar.Proofs.Parse.Record
import OperatorGrammar.Proofs.Parselet.Honest

/-!
# Faithful faults

Every fault of a lexer or a parser shows a place in the text, and if it names a token then that is
the token consumed last, whatever was looked at before and however deep the expression is nested.
All other faults are reports of parselets.
-/

namespace OperatorGrammar.Grammar

variable {τ π ε : Type}

/-- What is true of a fault that arises when `last` was consumed last, in the parse of an expression
if there is a level. -/
inductive Faithful (g : Grammar τ π ε) (text : String) (last : Option (Token τ)) :
    Option π → Fault τ → Prop where
  | unidentified {place : Place} {slice : List Char} : place.Within text slice →
      Faithful g text last none (.unidentified place)
  | mismatch {expected : τ} {token : Token τ} {place : Place} : last = some token →
      place.Shows text token → token.kind ≠ expected →
      Faithful g text last none (.mismatch expected token.kind token.literal place)
  | noStarter {min : π} {token : Token τ} {place : Place} : last = some token →
      place.Shows text token → g.starter token.kind = none →
      Faithful g text last (some min) (.noStarter token.kind token.literal place)
  | noFollower {min : π} {token : Token τ} {place : Place} : last = some token →
      place.Shows text token → g.binds min token.kind = true → g.follower token.kind = none →
      Faithful g text last (some min) (.noFollower token.kind token.literal place)

variable {g : Grammar τ π ε} {text : String}

theorem Faithful.root_eq {last : Option (Token τ)} {level : Option π} {fault : Fault τ}
    (h : g.Faithful text last level fault) : fault.root = fault := by
  cases h <;> rfl

theorem Faithful.mono {last last' : Option (Token τ)} {level : Option π} {fault : Fault τ}
    (h : g.Faithful text last level fault)
    (hlast : ∀ token, last = some token → last' = some token) :
    g.Faithful text last' level fault := by
  cases h with
  | unidentified hwithin => exact .unidentified hwithin
  | mismatch htoken hshows hne => exact .mismatch (hlast _ htoken) hshows hne
  | noStarter htoken hshows hstarter => exact .noStarter (hlast _ htoken) hshows hstarter
  | noFollower htoken hshows hbinds hfollower =>
    exact .noFollower (hlast _ htoken) hshows hbinds hfollower

/-- A token with a precedence and without a follower is what it takes. -/
theorem Faithful.exists_precedence {last : Option (Token τ)} {level : Option π} {token : τ}
    {literal : Option String} {place : Place}
    (h : g.Faithful text last level (.noFollower token literal place)) :
    (g.precedence token).isSome = true ∧ g.follower token = none := by
  cases h with
  | noFollower _ _ hbinds hfollower =>
    refine ⟨?_, hfollower⟩
    obtain ⟨own, hown, -⟩ := (Option.any_eq_true _ _).1 hbinds
    rw [hown, Option.isSome_some]

variable {lexicon : Lexicon τ} {lx : Lexer τ}

theorem Refuses.faithful (h : lx.Invariant lexicon text.toList) {min : π} {fault : Fault τ}
    (hrefuses : g.Refuses lx min fault) :
    g.Faithful text (lx.consumes? .advance) (some min) fault := by
  cases hrefuses with
  | noStarter hdelivers hstarter =>
    exact .noStarter (hdelivers.consumes?_eq rfl) (h.shows_of_delivers hdelivers) hstarter
  | noFollower hdelivers hbinds hfollower =>
    exact .noFollower (hdelivers.consumes?_eq rfl) (h.shows_of_delivers hdelivers) hbinds hfollower

variable [DecidableEq τ]

theorem faithful_of_reply (h : lx.Invariant lexicon text.toList) {call : Lexer.Call τ}
    {fault : Fault τ} (hreply : (lx.call call).1 = .fault fault) :
    g.Faithful text (lx.consumes? call) none fault := by
  rcases Lexer.fault_cases hreply with
    ⟨next, hadvance⟩ | ⟨expected, token, next, rfl, hdelivers, hne, rfl⟩
  · obtain ⟨place, slice, rfl, hwithin⟩ := h.within_of_advance_error hadvance
    exact .unidentified hwithin
  · exact .mismatch (hdelivers.consumes?_eq rfl) (h.shows_of_delivers hdelivers) hne

/-- All faults of one event are faithful. -/
theorem Happens.faithful {event : Event τ π} (hevent : g.Happens lx event)
    (h : lx.Invariant lexicon text.toList) {level : Option π} {fault : Fault τ}
    (hfault : (level, fault) ∈ event.faults) :
    g.Faithful text (lx.consumes? event.call) level fault := by
  rcases Event.mem_faults hfault with ⟨rfl, hreply⟩ | ⟨min, rfl, hrefusal⟩
  · exact faithful_of_reply h (hevent.reply_eq.symm.trans hreply)
  · obtain ⟨hcall, hrefuses⟩ := hevent.refuses min fault hrefusal
    rw [hcall]
    exact hrefuses.faithful h

theorem Happened.faithful {before later : List (Event τ π)} {event : Event τ π}
    (hevents : g.Happened lx (before ++ event :: later)) (h : lx.Invariant lexicon text.toList)
    {level : Option π} {fault : Fault τ} (hfault : (level, fault) ∈ event.faults) :
    g.Faithful text (lx.consumed ((before ++ [event]).map Event.call)).getLast? level fault := by
  have hlx := h.after (before.map Event.call)
  refine (hevents.happens.faithful hlx hfault).mono fun token htoken ↦ ?_
  rw [List.map_append]
  exact Lexer.getLast?_consumed htoken

/-! ## Where the faults that are found come from -/

/-- If a computation finds a fault, then one that counts, provided that all that arise in it do. -/
def Accounts (made : Fault τ → Prop) (record : Record τ π (Parsed τ ε)) : Prop :=
  (∀ event ∈ record.events, ∀ produced ∈ event.faults, made produced.2) →
    ∀ fault last, record.found = some (.error fault, last) → made fault

section

variable {made : Fault τ → Prop} {record : Record τ π (Parsed τ ε)}

omit [DecidableEq τ] in
theorem accounts_unfinished (h : record.found = none) : Accounts made record := by
  intro _ fault last hfound
  cases h.symm.trans hfound

omit [DecidableEq τ] in
theorem accounts_ended {result : Except (Fault τ) ε} (last : Lexer τ)
    (h : ∀ fault, result = .error fault → made fault) :
    Accounts made (.ended (result, last) : Record τ π (Parsed τ ε)) := by
  rintro - fault _ ⟨⟩
  exact h fault rfl

omit [DecidableEq τ] in
theorem accounts_note {event : Event τ π}
    (h : (∀ produced ∈ event.faults, made produced.2) → Accounts made record) :
    Accounts made (record.note event) :=
  fun hfaults ↦ h (hfaults event (.head _)) fun later hlater ↦ hfaults later (.tail _ hlater)

omit [DecidableEq τ] in
theorem accounts_note_fault {event : Event τ π} {level : Option π} {fault : Fault τ}
    (h : event.faults = [(level, fault)]) (last : Lexer τ) :
    Accounts made ((.ended (.error fault, last) : Record τ π (Parsed τ ε)).note event) := by
  refine accounts_note fun hfaults ↦ accounts_ended last fun own hown ↦ ?_
  obtain rfl := Except.error.inj hown
  exact hfaults (level, fault) (h ▸ .head _)

omit [DecidableEq τ] in
theorem Accounts.bind (h : Accounts made record)
    {next : Parsed τ ε → Record τ π (Parsed τ ε)}
    (hnext : ∀ result last, (∀ fault, result = .error fault → made fault) →
      Accounts made (next (result, last))) : Accounts made (record.bind next) := by
  rw [Record.bind]
  cases hfound : record.found with
  | none => exact accounts_unfinished rfl
  | some parsed =>
    intro hfaults
    obtain ⟨result, last⟩ := parsed
    simp only [List.mem_append] at hfaults
    have hresult (fault : Fault τ) (hfault : result = .error fault) : made fault :=
      h (fun event hevent ↦ hfaults event (.inl hevent)) fault last (hfault ▸ hfound)
    exact hnext result last hresult fun event hevent ↦ hfaults event (.inr hevent)

omit [DecidableEq τ] in
theorem Accounts.andThenRecorded (h : Accounts made record)
    {next : ε → Lexer τ → Record τ π (Parsed τ ε)}
    (hnext : ∀ value last, Accounts made (next value last)) :
    Accounts made (andThenRecorded record next) := by
  refine h.bind fun result last hresult ↦ ?_
  cases result with
  | error fault => exact accounts_ended last hresult
  | ok value => exact hnext value last

/-- With honest strategies the three functions find no faults but reports and those that arise. -/
theorem Honest.accounts (hg : g.Honest) (hmade : Fault.Closed made) (depth : Nat) :
    (∀ min lx, Accounts made (g.parseRecorded depth min lx)) ∧
    (∀ min left lx, Accounts made (g.climbRecorded depth min left lx)) ∧
    ∀ strategy heard lx, strategy.Honest →
      (∀ answer ∈ heard, ∀ fault ∈ answer.fault?, made fault) →
        Accounts made (g.actRecorded depth strategy heard lx) := by
  induction depth with
  | zero =>
    refine ⟨fun min lx ↦ ?parse, fun min left lx ↦ ?climb, fun strategy heard lx _ _ ↦ ?act⟩
    case parse =>
      rw [parseRecorded]
      exact accounts_unfinished rfl
    case climb =>
      rw [climbRecorded]
      exact accounts_unfinished rfl
    case act =>
      rw [actRecorded]
      exact accounts_unfinished rfl
  | succ depth ih =>
    obtain ⟨hparse, hclimb, hact⟩ := ih
    have hcontinue {strategy : Strategy τ π ε} (hstrategy : strategy.Honest) (min : π)
        (lx : Lexer τ) : Accounts made (andThenRecorded (g.actRecorded depth strategy [] lx)
          (g.climbRecorded depth min)) :=
      (hact strategy [] lx hstrategy (List.forall_mem_nil _)).andThenRecorded (hclimb min)
    refine ⟨fun min lx ↦ ?parse, fun min left lx ↦ ?climb,
      fun strategy heard lx hstrategy hheard ↦ ?act⟩
    case parse =>
      rw [parseRecorded]
      rcases lx.advance with ⟨fault | token, next⟩
      · exact accounts_note_fault rfl next
      · dsimp only
        cases hstarter : g.starter token with
        | none => exact accounts_note_fault rfl next
        | some strategy =>
          exact accounts_note fun _ ↦ hcontinue (hg.starter token strategy hstarter) min next
    case climb =>
      rw [climbRecorded]
      rcases lx.peek with ⟨fault | token, peeked⟩
      · exact accounts_note_fault rfl peeked
      · refine accounts_note fun _ ↦ ?_
        split
        case isFalse => exact accounts_ended peeked fun _ hfault ↦ by cases hfault
        case isTrue =>
          rcases peeked.advance with ⟨fault | token, next⟩
          · exact accounts_note_fault rfl next
          · dsimp only
            cases hfollower : g.follower token with
            | none => exact accounts_note_fault rfl next
            | some strategy =>
              exact accounts_note fun _ ↦
                hcontinue (hg.follower token strategy left hfollower) min next
    case act =>
      -- what an answer tells of arose when it was given, or counted already
      have hlonger {answer : Answer τ ε} (hanswer : ∀ fault ∈ answer.fault?, made fault) :
          ∀ other ∈ heard ++ [answer], ∀ fault ∈ other.fault?, made fault := by
        intro other hother
        rcases List.mem_append.1 hother with hother | hother
        · exact hheard other hother
        · rwa [List.mem_singleton.1 hother]
      rw [actRecorded]
      split
      case h_1 result hdone =>
        refine accounts_ended lx fun fault hfault ↦ ?_
        exact hstrategy.made hmade hheard (hfault ▸ hdone)
      case h_2 level _ =>
        refine (hparse level lx).bind fun result last hresult ↦ ?_
        refine hact strategy _ last hstrategy (hlonger fun fault hfault ↦ ?_)
        cases result with
        | error own => exact hresult fault (congrArg Except.error (Option.some.inj hfault))
        | ok value => cases hfault
      case h_3 call _ =>
        refine accounts_note fun hfaults ↦ ?_
        refine hact strategy _ _ hstrategy (hlonger fun fault hfault ↦ ?_)
        cases hreply : (lx.call call).1 with
        | kind kind =>
          rw [hreply] at hfault
          cases hfault
        | token token =>
          rw [hreply] at hfault
          cases hfault
        | fault own =>
          rw [Event.faults_of_reply hreply] at hfaults
          rw [hreply] at hfault
          exact Option.some.inj hfault ▸ hfaults _ (.head _)

end

/-- Whatever is asked of a lexer and of a parser, with expressions nested in any way: the faults that
arise have their places in the text, and the tokens that they name are those consumed last, with
their own literals. With honest strategies no others are found but reports. -/
theorem faithful_of_recorded (g : Grammar τ π ε) (lexicon : Lexicon τ) (name : Option String)
    (text : String) (driver : Strategy τ π ε) (depth : Nat) :
    let lx := Lexer.ofText lexicon name text
    let record := g.actRecorded depth driver [] lx
    record.found = g.act depth driver [] lx ∧
    lx.transcript (record.events.map Event.call) =
      record.events.map (fun event ↦ (event.call, event.reply)) ∧
    (∀ result last, record.found = some (result, last) →
      last = lx.after (record.events.map Event.call)) ∧
    (∀ before event later, record.events = before ++ event :: later →
      ∀ level fault, (level, fault) ∈ event.faults →
        g.Faithful text (lx.consumed ((before ++ [event]).map Event.call)).getLast? level fault) ∧
    ((∀ token, (g.precedence token).isSome = true → (g.follower token).isSome = true) →
      ∀ event ∈ record.events, ∀ level token literal place,
        (level, .noFollower token literal place) ∉ event.faults) ∧
    (g.Honest → driver.Honest → ∀ fault last, record.found = some (.error fault, last) →
      (∃ message, fault.root = .report message) ∨
        ∃ event ∈ record.events, ∃ level, (level, fault.root) ∈ event.faults) := by
  intro lx record
  have hfollows : g.Follows lx record := (g.follows_recorded depth).2.2 driver [] lx
  have h : lx.Invariant lexicon text.toList := Lexer.invariant_ofText lexicon name text
  have hfaithful (before : List (Event τ π)) (event : Event τ π) (later : List (Event τ π))
      (hevents : record.events = before ++ event :: later) (level : Option π) (fault : Fault τ)
      (hfault : (level, fault) ∈ event.faults) :
      g.Faithful text (lx.consumed ((before ++ [event]).map Event.call)).getLast? level fault :=
    (hevents ▸ hfollows.happened).faithful h hfault
  refine ⟨(g.found_recorded depth).2.2 driver [] lx, hfollows.happened.transcript_eq,
    hfollows.last_eq, hfaithful, ?follower, ?found⟩
  case follower =>
    intro hfollower event hevent level token literal place hfault
    obtain ⟨before, later, hevents⟩ := List.append_of_mem hevent
    obtain ⟨hprecedence, hnone⟩ :=
      (hfaithful before event later hevents level _ hfault).exists_precedence
    have hsome := hfollower token hprecedence
    rw [hnone] at hsome
    cases hsome
  case found =>
    intro hg hdriver
    have hclosed := Fault.closed_report_or fun root ↦
      ∃ event ∈ record.events, ∃ level, (level, root) ∈ event.faults
    refine (hg.accounts hclosed depth).2.2 driver [] lx hdriver nofun fun event hevent produced
      hproduced ↦ .inr ⟨event, hevent, produced.1, ?_⟩
    obtain ⟨before, later, hevents⟩ := List.append_of_mem hevent
    rw [(hfaithful before event later hevents produced.1 produced.2 hproduced).root_eq]
    exact hproduced

/-- The operand of the first parselet is followed by a token that binds but has no follower. The
parselet keeps that fault to itself. -/
theorem faithful_of_recorded_attempt :
    ∃ lexicon,
      Lexicon.ofRules? "end" [⟨"n", "é"⟩, ⟨"!", "!"⟩, ⟨"?", "[?]"⟩] = .ok lexicon ∧
      let naming : Naming String := ⟨id, id⟩
      let table : KindTable String Int :=
        { precedence := fun token ↦ [("!", 1)].lookup token
          order := compare
          starter := fun token ↦ [("n", .leaf), ("?", .attempt 0)].lookup token
          follower := fun _ ↦ none }
      let g := table.grammar naming "end"
      let complete := { table with follower := fun _ ↦ some .trailing }.grammar naming "end"
      let lx := Lexer.ofText lexicon none "\n?é!"
      let driver := Strategy.asking [.parse 0, .call (.expect "n")]
      let record := g.actRecorded 12 driver [] lx
      let lonely := Fault.noFollower "!" (some "!") ⟨"<input>", "\n?é!", 4, 1⟩
      let unexpected := Fault.mismatch "n" "end" none ⟨"<input>", "\n?é!", 5, 0⟩
      record.events.flatMap Event.faults = [(some 0, lonely), (none, unexpected)] ∧
      (∀ before event later, record.events = before ++ event :: later →
        ∀ level fault, (level, fault) ∈ event.faults →
          g.Faithful "\n?é!" (lx.consumed ((before ++ [event]).map Event.call)).getLast? level
            fault) ∧
      (∀ event ∈ (complete.actRecorded 12 driver [] lx).events, ∀ level token literal place,
        (level, .noFollower token literal place) ∉ event.faults) ∧
      record.found.map Prod.fst = some (.error unexpected) ∧
      ∃ event ∈ record.events, ∃ level, (level, unexpected) ∈ event.faults := by
  let lexicon : Lexicon String :=
    ⟨"end", .alt (.group 1 (.literal ['é']))
      (.alt (.group 2 (.literal ['!'])) (.group 3 (.literal ['?']))),
      [(1, "n"), (2, "!"), (3, "?")]⟩
  have hrules : Lexicon.ofRules? "end" [⟨"n", "é"⟩, ⟨"!", "!"⟩, ⟨"?", "[?]"⟩] = .ok lexicon := by
    cbv
  refine ⟨lexicon, hrules, ?_⟩
  intro naming table g complete lx driver record lonely unexpected
  have hg : g.IsNotated naming "end" := isNotated_grammar naming "end" table
  have hfaults : record.events.flatMap Event.faults = [(some 0, lonely), (none, unexpected)] := by
    dsimp only [record, g, table, lx, naming, lexicon, driver, lonely, unexpected]
    cbv
  have hfound : record.found.map Prod.fst = some (.error unexpected) := by
    dsimp only [record, g, table, lx, naming, lexicon, driver, unexpected]
    cbv
  obtain ⟨-, -, -, hfaithful, -, hcauses⟩ := faithful_of_recorded g lexicon none "\n?é!" driver 12
  obtain ⟨-, -, -, -, hcomplete, -⟩ := faithful_of_recorded complete lexicon none "\n?é!" driver 12
  refine ⟨hfaults, hfaithful, hcomplete fun _ _ ↦ rfl, hfound, ?_⟩
  obtain ⟨⟨_, last⟩, hlast, rfl⟩ := Option.map_eq_some_iff.1 hfound
  rcases hcauses hg.honest (Strategy.honest_asking _) unexpected last hlast with ⟨_, hroot⟩ | hevent
  · cases hroot
  · exact hevent

end OperatorGrammar.Grammar
