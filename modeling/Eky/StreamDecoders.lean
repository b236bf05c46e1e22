import Eky.Buffers

/-! # Stream decoders

    A stream decoder takes a text part by part.  It gives back what it can decode so far, keeps
    the bytes of a character that is not complete, and a last call without a part flushes it.

    - `Decoder.run`: the parts one after the other, then the flush;
    - `Decodes`: whatever the parts, the run gives what the whole text is worth, and leaves the
      decoder as it was at the start;
    - `ByteMachine`: a decoder that takes its input byte by byte has this property by
      construction (`ByteMachine.decodes`). -/

namespace StreamDecoders

/-- An object with a method `decode(part, { stream })`, which throws or returns code units. -/
structure Decoder (τ : Type) where
  State : Type
  initial : State
  decode : State → Buffer → Bool → Option (List τ × State)

variable {τ : Type}

/-- What comes out when `text` has come out before. -/
def prepend {σ : Type} (text : List τ) (out : List τ × σ) : List τ × σ := (text ++ out.1, out.2)

/-- The parts in stream mode, then the flush. -/
def Decoder.run (decoder : Decoder τ) :
    decoder.State → List Buffer → Option (List τ × decoder.State)
  | state, [] => decoder.decode state [] false
  | state, part :: parts =>
      match decoder.decode state part true with
      | none => none
      | some (text, next) => (decoder.run next parts).map (prepend text)

theorem Decoder.run_cons_some {decoder : Decoder τ} {state next : decoder.State} {part : Buffer}
    {text : List τ} (h : decoder.decode state part true = some (text, next))
    (parts : List Buffer) :
    decoder.run state (part :: parts)
      = (decoder.run next parts).map (prepend text) := by
  show (match decoder.decode state part true with
    | none => none
    | some (text, next) => (decoder.run next parts).map (prepend text)) = _
  rw [h]

theorem Decoder.run_cons_none {decoder : Decoder τ} {state : decoder.State} {part : Buffer}
    (h : decoder.decode state part true = none) (parts : List Buffer) :
    decoder.run state (part :: parts) = none := by
  show (match decoder.decode state part true with
    | none => none
    | some (text, next) => (decoder.run next parts).map (prepend text)) = _
  rw [h]

/-- Reading a text in parts is reading it at once. -/
structure Decodes (decoder : Decoder τ) (allowed : Buffer → Prop)
    (whole : Buffer → Option (List τ)) : Prop where
  run : ∀ parts, (∀ part ∈ parts, allowed part) →
    decoder.run decoder.initial parts
      = (whole parts.flatten).map fun text => (text, decoder.initial)

/-! ## Decoders that go byte by byte -/

/-- A decoder that takes byte after byte. -/
structure ByteMachine (τ : Type) where
  State : Type
  initial : State
  step : State → UInt8 → List τ × State
  finish : State → List τ

/-- What the machine emits for bytes, and where it stands behind them. -/
def ByteMachine.feed (machine : ByteMachine τ) :
    machine.State → Buffer → List τ × machine.State
  | state, [] => ([], state)
  | state, byte :: bytes =>
      let (text, next) := machine.step state byte
      let (rest, last) := machine.feed next bytes
      (text ++ rest, last)

/-- The machine as a decoder of chunks. -/
def ByteMachine.decoder (machine : ByteMachine τ) : Decoder τ where
  State := machine.State
  initial := machine.initial
  decode state part stream :=
    let (text, next) := machine.feed state part
    if stream then some (text, next)
    else some (text ++ machine.finish next, machine.initial)

/-- All bytes, then the end. -/
def ByteMachine.whole (machine : ByteMachine τ) (bytes : Buffer) : List τ :=
  let (text, last) := machine.feed machine.initial bytes
  text ++ machine.finish last

variable {machine : ByteMachine τ}

theorem ByteMachine.feed_append (state : machine.State) (first second : Buffer) :
    machine.feed state (first ++ second)
      = ((machine.feed state first).1 ++ (machine.feed (machine.feed state first).2 second).1,
        (machine.feed (machine.feed state first).2 second).2) := by
  induction first generalizing state with
  | nil => rfl
  | cons byte bytes ih =>
      simp only [List.cons_append, ByteMachine.feed, ih, List.append_assoc]

/-- From any state the run gives what feeding all parts gives. -/
theorem ByteMachine.run_eq (state : machine.State) (parts : List Buffer) :
    machine.decoder.run state parts
      = some ((machine.feed state parts.flatten).1
          ++ machine.finish (machine.feed state parts.flatten).2, machine.initial) := by
  induction parts generalizing state with
  | nil => rfl
  | cons part parts ih =>
      have hstep : machine.decoder.decode state part true = some (machine.feed state part) := rfl
      rw [Decoder.run_cons_some hstep, ih, List.flatten_cons, ByteMachine.feed_append]
      exact congrArg some (Prod.ext (List.append_assoc _ _ _).symm rfl)

theorem ByteMachine.decodes (machine : ByteMachine τ) :
    Decodes machine.decoder (fun _ => True) fun bytes => some (machine.whole bytes) where
  run parts _ := machine.run_eq machine.initial parts

end StreamDecoders
