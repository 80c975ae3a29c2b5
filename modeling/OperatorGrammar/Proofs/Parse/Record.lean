import OperatorGrammar.Proofs.Lexer.Runs
import OperatorGrammar.Proofs.Parse.Equations

/-!
# Records

A parse with a record of all that it does with the lexer, in nested expressions too, and of the
faults that it makes of the tokens it gets. The record of a computation that would go deeper than it
is allowed to ends there, so that the records of all depths together tell everything that happens,
also in a parse without an end and also where a parselet keeps a fault to itself.
-/

namespace OperatorGrammar

variable {τ π ε α β : Type}

/-- An operation of the lexer with its reply, and the fault that the parse of an expression at some
level makes of it. -/
structure Event (τ π : Type) where
  call : Lexer.Call τ
  reply : Lexer.Reply τ
  refusal : Option (π × Fault τ)

/-- The faults that arise: that of the operation, and that of a parse with its level. -/
def Event.faults (event : Event τ π) : List (Option π × Fault τ) :=
  match event.reply, event.refusal with
  | .fault fault, _ => [(none, fault)]
  | _, some (level, fault) => [(some level, fault)]
  | _, none => []

theorem Event.faults_of_reply {event : Event τ π} {fault : Fault τ}
    (h : event.reply = .fault fault) : event.faults = [(none, fault)] := by
  rw [faults, h]

theorem Event.mem_faults {event : Event τ π} {level : Option π} {fault : Fault τ}
    (h : (level, fault) ∈ event.faults) :
    (level = none ∧ event.reply = .fault fault) ∨
      ∃ min, level = some min ∧ event.refusal = some (min, fault) := by
  obtain ⟨call, reply, refusal⟩ := event
  rcases reply with kind | token | own
  · rcases refusal with _ | ⟨min, own⟩ <;> simp_all [faults]
  · rcases refusal with _ | ⟨min, own⟩ <;> simp_all [faults]
  · simp_all [faults]

/-- What happens in a computation, and what it finds if it has an end. -/
structure Record (τ π α : Type) where
  events : List (Event τ π)
  found : Option α

namespace Record

def ended (found : α) : Record τ π α := ⟨[], some found⟩

/-- Puts an event in front that happened before. -/
def note (event : Event τ π) (record : Record τ π α) : Record τ π α :=
  ⟨event :: record.events, record.found⟩

def bind (record : Record τ π α) (next : α → Record τ π β) : Record τ π β :=
  match record.found with
  | none => ⟨record.events, none⟩
  | some found => ⟨record.events ++ (next found).events, (next found).found⟩

theorem found_bind (record : Record τ π α) (next : α → Record τ π β) :
    (record.bind next).found = record.found.bind fun found ↦ (next found).found := by
  rw [bind]
  split <;> simp [*]

end Record

namespace Grammar

/-- Goes on with the value that was parsed, and passes a fault on. -/
def andThenRecorded (record : Record τ π (Parsed τ ε))
    (next : ε → Lexer τ → Record τ π (Parsed τ ε)) : Record τ π (Parsed τ ε) :=
  record.bind fun
    | (.error fault, lx) => .ended (.error fault, lx)
    | (.ok value, lx) => next value lx

theorem found_andThenRecorded (record : Record τ π (Parsed τ ε))
    (next : ε → Lexer τ → Record τ π (Parsed τ ε)) :
    (andThenRecorded record next).found =
      andThen record.found fun value lx ↦ (next value lx).found := by
  rw [andThenRecorded, Record.found_bind, andThen]
  congr 1
  funext parsed
  rcases parsed with ⟨fault | value, lx⟩ <;> rfl

variable [DecidableEq τ]

mutual

/-- Parses one expression as `parse` does. -/
def parseRecorded (g : Grammar τ π ε) : Nat → π → Lexer τ → Record τ π (Parsed τ ε)
  | 0, _, _ => ⟨[], none⟩
  | depth + 1, min, lx =>
    match lx.advance with
    | (.error fault, lx) => .note ⟨.advance, .fault fault, none⟩ (.ended (.error fault, lx))
    | (.ok token, lx) =>
      match g.starter token with
      | none =>
        let fault := Fault.noStarter token lx.currentOrEnd.literal lx.currentPlace
        .note ⟨.advance, .kind token, some (min, fault)⟩ (.ended (.error fault, lx))
      | some strategy =>
        .note ⟨.advance, .kind token, none⟩
          (andThenRecorded (actRecorded g depth strategy [] lx) (climbRecorded g depth min))

/-- Continues an expression as `climb` does. -/
def climbRecorded (g : Grammar τ π ε) : Nat → π → ε → Lexer τ → Record τ π (Parsed τ ε)
  | 0, _, _, _ => ⟨[], none⟩
  | depth + 1, min, left, lx =>
    match lx.peek with
    | (.error fault, lx) => .note ⟨.peek, .fault fault, none⟩ (.ended (.error fault, lx))
    | (.ok token, lx) =>
      .note ⟨.peek, .kind token, none⟩ <|
        if g.binds min token then
          match lx.advance with
          | (.error fault, lx) => .note ⟨.advance, .fault fault, none⟩ (.ended (.error fault, lx))
          | (.ok token, lx) =>
            match g.follower token with
            | none =>
              let fault := Fault.noFollower token lx.currentOrEnd.literal lx.currentPlace
              .note ⟨.advance, .kind token, some (min, fault)⟩ (.ended (.error fault, lx))
            | some strategy =>
              .note ⟨.advance, .kind token, none⟩
                (andThenRecorded (actRecorded g depth (strategy left) [] lx)
                  (climbRecorded g depth min))
        else .ended (.ok left, lx)

/-- Plays a strategy as `act` does. -/
def actRecorded (g : Grammar τ π ε) :
    Nat → Strategy τ π ε → List (Answer τ ε) → Lexer τ → Record τ π (Parsed τ ε)
  | 0, _, _, _ => ⟨[], none⟩
  | depth + 1, strategy, heard, lx =>
    match strategy heard with
    | .done result => .ended (result, lx)
    | .ask (.parse level) =>
      (parseRecorded g depth level lx).bind fun parsed ↦
        actRecorded g depth strategy (heard ++ [.parsed parsed.1]) parsed.2
    | .ask (.call call) =>
      .note ⟨call, (lx.call call).1, none⟩
        (actRecorded g depth strategy (heard ++ [.reply (lx.call call).1]) (lx.call call).2)

end

/-! ## The record changes nothing -/

variable (g : Grammar τ π ε)

/-- Without the record, the three functions find what the plain ones do at the same depth. -/
theorem found_recorded (depth : Nat) :
    (∀ min lx, (g.parseRecorded depth min lx).found = g.parse depth min lx) ∧
    (∀ min left lx, (g.climbRecorded depth min left lx).found = g.climb depth min left lx) ∧
    ∀ strategy heard lx,
      (g.actRecorded depth strategy heard lx).found = g.act depth strategy heard lx := by
  induction depth with
  | zero =>
    refine ⟨fun min lx ↦ ?parse, fun min left lx ↦ ?climb, fun strategy heard lx ↦ ?act⟩
    case parse => rw [parseRecorded, parse]
    case climb => rw [climbRecorded, climb]
    case act => rw [actRecorded, act]
  | succ depth ih =>
    obtain ⟨hparse, hclimb, hact⟩ := ih
    have hcontinue (event : Event τ π) (strategy : Strategy τ π ε) (min : π) (lx : Lexer τ) :
        (Record.note event (andThenRecorded (g.actRecorded depth strategy [] lx)
          (g.climbRecorded depth min))).found =
            andThen (g.act depth strategy [] lx) (g.climb depth min) := by
      rw [Record.note, found_andThenRecorded, hact]
      congr 1
      funext left lx
      exact hclimb min left lx
    refine ⟨fun min lx ↦ ?parse, fun min left lx ↦ ?climb, fun strategy heard lx ↦ ?act⟩
    case parse =>
      rw [parseRecorded, parse_succ]
      rcases lx.advance with ⟨fault | token, lx⟩
      · rfl
      · dsimp only
        cases g.starter token with
        | none => rfl
        | some strategy => exact hcontinue _ strategy min lx
    case climb =>
      rw [climbRecorded, climb_succ]
      rcases lx.peek with ⟨fault | token, lx⟩
      · rfl
      · dsimp only [Record.note]
        split
        · rcases lx.advance with ⟨fault | token, lx⟩
          · rfl
          · dsimp only
            cases g.follower token with
            | none => rfl
            | some strategy => exact hcontinue _ (strategy left) min lx
        · rfl
    case act =>
      rw [actRecorded, act]
      cases strategy heard with
      | done result => rfl
      | ask request =>
        cases request with
        | parse level =>
          dsimp only
          rw [Record.found_bind, hparse]
          cases g.parse depth level lx with
          | none => rfl
          | some parsed => exact hact ..
        | call call => exact hact strategy _ (lx.call call).2

/-! ## The record is true -/

/-- What makes a parse at level `min` report the token that it takes. -/
inductive Refuses (lx : Lexer τ) (min : π) : Fault τ → Prop where
  | noStarter {token : Token τ} {next : Lexer τ} : lx.Delivers token next →
      g.starter token.kind = none →
      Refuses lx min (.noStarter token.kind token.literal next.currentPlace)
  | noFollower {token : Token τ} {next : Lexer τ} : lx.Delivers token next →
      g.binds min token.kind = true → g.follower token.kind = none →
      Refuses lx min (.noFollower token.kind token.literal next.currentPlace)

/-- The event happens to a lexer: this is how it replies, and a parse reports the token it takes. -/
structure Happens (lx : Lexer τ) (event : Event τ π) : Prop where
  reply_eq : event.reply = (lx.call event.call).1
  refuses : ∀ min fault, event.refusal = some (min, fault) →
    event.call = .advance ∧ g.Refuses lx min fault

/-- The events happen one after the other, from a lexer on. -/
def Happened : Lexer τ → List (Event τ π) → Prop
  | _, [] => True
  | lx, event :: events => g.Happens lx event ∧ Happened (lx.call event.call).2 events

/-- All that is recorded happened, and nothing else was done to the lexer. -/
structure Follows (lx : Lexer τ) (record : Record τ π (Parsed τ ε)) : Prop where
  happened : g.Happened lx record.events
  last_eq : ∀ result last, record.found = some (result, last) →
    last = lx.after (record.events.map Event.call)

variable {g} {lx next : Lexer τ} {events later : List (Event τ π)}

theorem Happened.append (h : g.Happened lx events)
    (hlater : g.Happened (lx.after (events.map Event.call)) later) :
    g.Happened lx (events ++ later) := by
  induction events generalizing lx with
  | nil => exact hlater
  | cons event events ih => exact ⟨h.1, ih h.2 hlater⟩

theorem Happened.happens {event : Event τ π} (h : g.Happened lx (events ++ event :: later)) :
    g.Happens (lx.after (events.map Event.call)) event := by
  induction events generalizing lx with
  | nil => exact h.1
  | cons first events ih => exact ih h.2

theorem Happened.transcript_eq (h : g.Happened lx events) :
    lx.transcript (events.map Event.call) = events.map fun event ↦ (event.call, event.reply) := by
  induction events generalizing lx with
  | nil => rfl
  | cons event events ih =>
    rw [List.map_cons, List.map_cons, Lexer.transcript, ih h.2, h.1.reply_eq]

theorem follows_ended (result : Except (Fault τ) ε) :
    g.Follows lx (.ended (result, lx)) :=
  ⟨trivial, by rintro _ _ ⟨⟩; rfl⟩

theorem Follows.note {event : Event τ π} (h : g.Happens lx event)
    {record : Record τ π (Parsed τ ε)} (hrecord : g.Follows (lx.call event.call).2 record) :
    g.Follows lx (record.note event) :=
  ⟨⟨h, hrecord.happened⟩, hrecord.last_eq⟩

theorem Follows.bind {record : Record τ π (Parsed τ ε)} (h : g.Follows lx record)
    {next : Parsed τ ε → Record τ π (Parsed τ ε)}
    (hnext : ∀ result last, g.Follows last (next (result, last))) :
    g.Follows lx (record.bind next) := by
  rw [Record.bind]
  cases hfound : record.found with
  | none => exact ⟨h.happened, nofun⟩
  | some parsed =>
    obtain ⟨result, last⟩ := parsed
    have hlast := h.last_eq result last hfound
    have hlater := hnext result last
    refine ⟨h.happened.append (hlast ▸ hlater.happened), fun result' last' hfound' ↦ ?_⟩
    rw [List.map_append, Lexer.after_append, ← hlast]
    exact hlater.last_eq result' last' hfound'

theorem Follows.andThenRecorded {record : Record τ π (Parsed τ ε)} (h : g.Follows lx record)
    {next : ε → Lexer τ → Record τ π (Parsed τ ε)}
    (hnext : ∀ value last, g.Follows last (next value last)) :
    g.Follows lx (andThenRecorded record next) := by
  refine h.bind fun result last ↦ ?_
  cases result with
  | error fault => exact follows_ended _
  | ok value => exact hnext value last

theorem Follows.note_call {call : Lexer.Call τ} {reply : Lexer.Reply τ}
    (hcall : lx.call call = (reply, next)) {record : Record τ π (Parsed τ ε)}
    (hrecord : g.Follows next record) : g.Follows lx (record.note ⟨call, reply, none⟩) := by
  refine Follows.note ⟨congrArg Prod.fst hcall.symm, nofun⟩ ?_
  rwa [hcall]

theorem Follows.note_refusal {token : Token τ} (hdelivers : lx.Delivers token next) {min : π}
    {fault : Fault τ} (hrefuses : g.Refuses lx min fault) {record : Record τ π (Parsed τ ε)}
    (hrecord : g.Follows next record) :
    g.Follows lx (record.note ⟨.advance, .kind token.kind, some (min, fault)⟩) := by
  have hcall : lx.call .advance = (.kind token.kind, next) :=
    Lexer.call_advance hdelivers.advance_eq
  refine Follows.note ⟨congrArg Prod.fst hcall.symm, ?_⟩ ?_
  · rintro _ _ ⟨⟩
    exact ⟨rfl, hrefuses⟩
  · rwa [hcall]

variable (g)

theorem follows_recorded (depth : Nat) :
    (∀ min lx, g.Follows lx (g.parseRecorded depth min lx)) ∧
    (∀ min left lx, g.Follows lx (g.climbRecorded depth min left lx)) ∧
    ∀ strategy heard lx, g.Follows lx (g.actRecorded depth strategy heard lx) := by
  induction depth with
  | zero =>
    refine ⟨fun min lx ↦ ?parse, fun min left lx ↦ ?climb, fun strategy heard lx ↦ ?act⟩
    case parse =>
      rw [parseRecorded]
      exact ⟨trivial, nofun⟩
    case climb =>
      rw [climbRecorded]
      exact ⟨trivial, nofun⟩
    case act =>
      rw [actRecorded]
      exact ⟨trivial, nofun⟩
  | succ depth ih =>
    obtain ⟨hparse, hclimb, hact⟩ := ih
    have hcontinue (strategy : Strategy τ π ε) (min : π) (lx : Lexer τ) :
        g.Follows lx (andThenRecorded (g.actRecorded depth strategy [] lx)
          (g.climbRecorded depth min)) :=
      (hact strategy [] lx).andThenRecorded (hclimb min)
    refine ⟨fun min lx ↦ ?parse, fun min left lx ↦ ?climb, fun strategy heard lx ↦ ?act⟩
    case parse =>
      rcases hadvance : lx.advance with ⟨fault | kind, next⟩
      · rw [parseRecorded, hadvance]
        exact .note_call (Lexer.call_advance hadvance) (follows_ended _)
      · obtain ⟨token, rfl, hdelivers⟩ := Lexer.delivers_of_advance hadvance
        rw [parseRecorded, hadvance]
        dsimp only
        cases hstarter : g.starter token.kind with
        | none =>
          dsimp only
          rw [hdelivers.currentOrEnd_eq]
          exact .note_refusal hdelivers (.noStarter hdelivers hstarter) (follows_ended _)
        | some strategy => exact .note_call (Lexer.call_advance hadvance) (hcontinue strategy min next)
    case climb =>
      rcases hadvance : lx.advance with ⟨fault | kind, next⟩
      · have hpeek := Lexer.peek_of_advance_error hadvance
        rw [climbRecorded, hpeek]
        exact .note_call (Lexer.call_peek hpeek) (follows_ended _)
      · obtain ⟨token, rfl, hdelivers⟩ := Lexer.delivers_of_advance hadvance
        have hback := Lexer.delivers_putBack hdelivers
        rw [climbRecorded, hdelivers.peek_eq]
        refine .note_call (Lexer.call_peek hdelivers.peek_eq) ?_
        split
        case isFalse => exact follows_ended _
        case isTrue hbinds =>
          rw [hback.advance_eq]
          dsimp only
          cases hfollower : g.follower token.kind with
          | none =>
            dsimp only
            rw [hback.currentOrEnd_eq]
            exact .note_refusal hback (.noFollower hback hbinds hfollower) (follows_ended _)
          | some strategy =>
            exact .note_call (Lexer.call_advance hback.advance_eq) (hcontinue (strategy left) min next)
    case act =>
      rw [actRecorded]
      split
      case h_1 => exact follows_ended _
      case h_2 level _ =>
        exact (hparse level lx).bind fun result last ↦ hact strategy _ last
      case h_3 call _ => exact .note_call rfl (hact strategy _ _)

end Grammar

end OperatorGrammar
