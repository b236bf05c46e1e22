import Eky.Fallible

/-! # Input that arrives in chunks

    A machine takes its input one element at a time, gives back what is complete and may
    throw.  Its caller gets the input in chunks and hands over one chunk after the other.

    - `feed step`: a list of inputs, what comes out put together;
    - `feed (feed step)`: the same for a list of chunks;
    - `feed_flatten`: the chunks do not matter, only what they add up to;
    - `throwsIn_of_throwsAt`: nor does the input at which the machine throws depend on them. -/

namespace ChunkedInput

open Fallible

variable {ι σ τ ε : Type}

/-- One input after the other. -/
def feed (step : σ → ι → Except ε (List τ × σ)) : σ → List ι → Except ε (List τ × σ)
  | state, [] => .ok ([], state)
  | state, x :: xs => do
      let (out, next) ← step state x
      let (rest, last) ← feed step next xs
      .ok (out ++ rest, last)

variable {step : σ → ι → Except ε (List τ × σ)}

@[simp] theorem feed_nil (state : σ) : feed step state [] = .ok ([], state) := rfl

variable {state : σ} {x : ι} {xs ys : List ι} {error : ε} {out : List τ}

theorem feed_cons_eq_ok {last : σ} : feed step state (x :: xs) = .ok (out, last) ↔
      ∃ first next rest, step state x = .ok (first, next)
        ∧ feed step next xs = .ok (rest, last) ∧ out = first ++ rest := by
  show (step state x >>= fun r => feed step r.2 xs >>= fun s => .ok (r.1 ++ s.1, s.2)) = _ ↔ _
  rw [bind_eq_ok]
  constructor
  · rintro ⟨⟨first, next⟩, hfirst, h⟩
    obtain ⟨⟨rest, last'⟩, hrest, heq⟩ := bind_eq_ok.mp h
    obtain ⟨rfl, rfl⟩ := Prod.mk.inj (Except.ok.inj heq)
    exact ⟨first, next, rest, hfirst, hrest, rfl⟩
  · rintro ⟨first, next, rest, hfirst, hrest, rfl⟩
    exact ⟨(first, next), hfirst, bind_eq_ok.mpr ⟨(rest, last), hrest, rfl⟩⟩

theorem feed_cons_error (h : step state x = .error error) :
    feed step state (x :: xs) = .error error := by
  show (step state x >>= fun r => feed step r.2 xs >>= fun s => .ok (r.1 ++ s.1, s.2)) = _
  rw [h, error_bind]

theorem feed_cons_ok {next : σ} (h : step state x = .ok (out, next)) :
    feed step state (x :: xs) = (feed step next xs).map fun r => (out ++ r.1, r.2) := by
  show (step state x >>= fun r => feed step r.2 xs >>= fun s => .ok (r.1 ++ s.1, s.2)) = _
  rw [h, ok_bind]
  cases feed step next xs with
  | error error => rfl
  | ok r => rfl

/-- Two inputs, one after the other. -/
theorem feed_append_ok {next : σ} (h : feed step state xs = .ok (out, next)) :
    feed step state (xs ++ ys) = (feed step next ys).map fun r => (out ++ r.1, r.2) := by
  induction xs generalizing state out with
  | nil =>
      obtain ⟨rfl, rfl⟩ := Prod.mk.inj (Except.ok.inj h)
      rw [List.nil_append]
      cases feed step state ys with
      | error error => rfl
      | ok r => rfl
  | cons x xs ih =>
      obtain ⟨first, middle, rest, hfirst, hrest, rfl⟩ := feed_cons_eq_ok.mp h
      rw [List.cons_append, feed_cons_ok hfirst, ih hrest]
      cases feed step next ys with
      | error error => rfl
      | ok r => exact congrArg Except.ok (Prod.ext (List.append_assoc _ _ _).symm rfl)

theorem feed_append_error (h : feed step state xs = .error error) :
    feed step state (xs ++ ys) = .error error := by
  induction xs generalizing state with
  | nil => exact nomatch h
  | cons x xs ih =>
      cases hx : step state x with
      | error other =>
          rw [feed_cons_error hx] at h
          cases h
          exact feed_cons_error hx
      | ok r =>
          rw [feed_cons_ok hx] at h
          rw [List.cons_append, feed_cons_ok hx]
          cases hrest : feed step r.2 xs with
          | error other =>
              rw [hrest] at h
              cases h
              rw [ih hrest]
              rfl
          | ok s =>
              rw [hrest] at h
              exact nomatch h

/-- **CHUNKS**: what comes out, where the machine stands and what it throws depend on the
    whole input alone. -/
theorem feed_flatten (state : σ) (chunks : List (List ι)) :
    feed (feed step) state chunks = feed step state chunks.flatten := by
  induction chunks generalizing state with
  | nil => rfl
  | cons chunk chunks ih =>
      rw [List.flatten_cons]
      cases hchunk : feed step state chunk with
      | error error => rw [feed_cons_error hchunk, feed_append_error hchunk]
      | ok r => rw [feed_cons_ok hchunk, feed_append_ok hchunk, ih]

/-! ## The input at which the machine throws -/

/-- The machine takes the inputs in front of the index and throws at the one that stands
    there. -/
def ThrowsAt (step : σ → ι → Except ε (List τ × σ)) (state : σ) (xs : List ι)
    (index : Nat) : Prop :=
  ∃ before x after out reached error, xs = before ++ x :: after ∧ before.length = index
    ∧ feed step state before = .ok (out, reached) ∧ step reached x = .error error

/-- The chunk that throws is the one with the input at this index of all chunks together, and
    it throws there. -/
def ThrowsIn (step : σ → ι → Except ε (List τ × σ)) (state : σ) (chunks : List (List ι))
    (index : Nat) : Prop :=
  ∃ front chunk back out reached inner, chunks = front ++ chunk :: back
    ∧ feed (feed step) state front = .ok (out, reached) ∧ ThrowsAt step reached chunk inner
    ∧ index = front.flatten.length + inner

theorem throwsAt_of_error (h : feed step state xs = .error error) :
    ∃ index, ThrowsAt step state xs index := by
  induction xs generalizing state with
  | nil => exact nomatch h
  | cons x xs ih =>
      cases hx : step state x with
      | error other => exact ⟨0, [], x, xs, [], state, other, rfl, rfl, rfl, hx⟩
      | ok r =>
          have hrest : feed step r.2 xs = .error error := by
            rw [feed_cons_ok hx] at h
            cases hrest : feed step r.2 xs with
            | error other =>
                rw [hrest] at h
                exact congrArg Except.error (Except.error.inj h)
            | ok s =>
                rw [hrest] at h
                exact nomatch h
          obtain ⟨index, before, y, after, out, reached, other, rfl, hlength, hbefore, hy⟩ :=
            ih hrest
          exact ⟨index + 1, x :: before, y, after, r.1 ++ out, reached, other, rfl,
            congrArg (· + 1) hlength,
            feed_cons_eq_ok.mpr ⟨r.1, r.2, out, hx, hbefore, rfl⟩, hy⟩

theorem ThrowsAt.lt_length {index : Nat} (h : ThrowsAt step state xs index) :
    index < xs.length := by
  obtain ⟨before, x, after, _, _, _, rfl, rfl, _, _⟩ := h
  rw [List.length_append, List.length_cons]
  omega

/-- The front of an input that goes through goes through. -/
theorem feed_of_append {last : σ} (h : feed step state (xs ++ ys) = .ok (out, last)) :
    ∃ first next rest, feed step state xs = .ok (first, next)
      ∧ feed step next ys = .ok (rest, last) := by
  cases hxs : feed step state xs with
  | error error =>
      rw [feed_append_error hxs] at h
      exact nomatch h
  | ok r =>
      rw [feed_append_ok hxs] at h
      cases hys : feed step r.2 ys with
      | error error =>
          rw [hys] at h
          exact nomatch h
      | ok s =>
          rw [hys] at h
          obtain ⟨-, rfl⟩ := Prod.mk.inj (Except.ok.inj h)
          exact ⟨r.1, r.2, s.1, rfl, hys⟩

/-- **THE PLACE OF A THROW** is the same for every way of cutting the input into chunks. -/
theorem throwsIn_of_throwsAt {chunks : List (List ι)} {index : Nat}
    (h : ThrowsAt step state chunks.flatten index) : ThrowsIn step state chunks index := by
  obtain ⟨before, x, after, out, reached, error, hsplit, rfl, hbefore, hx⟩ := h
  induction chunks generalizing state before out with
  | nil => exact absurd hsplit (by simp)
  | cons chunk chunks ih =>
      rw [List.flatten_cons] at hsplit
      obtain ⟨after', hbefore', hrest⟩ | ⟨before', hchunk, hrest⟩ :=
        List.append_eq_append_iff.mp hsplit
      · -- the chunk lies in front of the input that throws
        subst hbefore'
        obtain ⟨first, next, rest, hfirst, hnext⟩ := feed_of_append hbefore
        obtain ⟨front, chunk', back, out', reached', inner, rfl, hfront, hthrows, hindex⟩ :=
          ih after' rest hrest hnext
        refine ⟨chunk :: front, chunk', back, first ++ out', reached', inner, rfl,
          feed_cons_eq_ok.mpr ⟨first, next, out', hfirst, hfront, rfl⟩, hthrows, ?_⟩
        rw [List.flatten_cons, List.length_append, List.length_append, hindex]
        omega
      · cases before' with
        | nil =>
            -- the chunk ends right in front of it
            rw [List.append_nil] at hchunk
            subst hchunk
            obtain ⟨front, chunk', back, out', reached', inner, rfl, hfront, hthrows, hindex⟩ :=
              ih [] [] hrest.symm rfl
            refine ⟨chunk :: front, chunk', back, out ++ out', reached', inner, rfl,
              feed_cons_eq_ok.mpr ⟨out, _, out', hbefore, hfront, rfl⟩, hthrows, ?_⟩
            rw [List.length_nil] at hindex
            rw [List.flatten_cons, List.length_append]
            omega
        | cons y before' =>
            obtain ⟨rfl, -⟩ := List.cons.inj hrest
            exact ⟨[], chunk, chunks, [], state, before.length, rfl, rfl,
              ⟨before, x, before', out, reached, error, hchunk, rfl, hbefore, hx⟩, by simp⟩

/-- Either no way of cutting throws, and they all come to the same, or they all throw at the
    same input. -/
theorem feed_chunks (state : σ) (stream : List ι) :
    (∃ out last, ∀ chunks : List (List ι), chunks.flatten = stream →
        feed (feed step) state chunks = .ok (out, last))
      ∨ ∃ error index, index < stream.length ∧ ∀ chunks : List (List ι),
        chunks.flatten = stream → feed (feed step) state chunks = .error error
          ∧ ThrowsIn step state chunks index := by
  cases hstream : feed step state stream with
  | ok r =>
      left
      refine ⟨r.1, r.2, fun chunks hchunks => ?_⟩
      rw [feed_flatten, hchunks, hstream]
  | error error =>
      right
      obtain ⟨index, hindex⟩ := throwsAt_of_error hstream
      refine ⟨error, index, hindex.lt_length, fun chunks hchunks => ⟨?_, ?_⟩⟩
      · rw [feed_flatten, hchunks, hstream]
      · exact throwsIn_of_throwsAt (hchunks ▸ hindex)

end ChunkedInput
