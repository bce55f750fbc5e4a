import Mathlib

/-!
# Serving clients

A server that reads a line takes the bytes up to a delimiter, but no more than
a limit; it waits for ever when neither has come and the stream stays open.

A server that handles its clients one after the other goes on, waits for
ever, or returns, and it depends on the clients it gets to which of these it
does.
-/

namespace Jackin.Foundation.Clients

open List

/-- The bytes up to and with the first delimiter, or all of them. -/
def readUntil (delimiter : UInt8) : List UInt8 → List UInt8
  | [] => []
  | byte :: rest => if byte = delimiter then [byte] else byte :: readUntil delimiter rest

/-- The line feed. -/
def newline : UInt8 := 10

/-- A line of at most so many bytes, unless the reader waits for more. -/
def readLine (limit : Nat) (sent : List UInt8)
    (ended : Bool) : Option (List UInt8) :=
  let line := readUntil newline (sent.take limit)
  if line.getLast? = some newline ∨ limit ≤ line.length ∨ ended then some line
  else none

theorem readUntil_frame (free : delimiter ∉ bytes) (rest : List UInt8) :
    readUntil delimiter (bytes ++ delimiter :: rest) = bytes ++ [delimiter] := by
  induction bytes with
  | nil => rw [nil_append, readUntil, if_pos rfl, nil_append]
  | cons byte others ih =>
    obtain ⟨differs, absent⟩ := not_or.mp (mt mem_cons.mpr free)
    rw [cons_append, readUntil, if_neg (Ne.symm differs), ih absent, cons_append]

/-- A line within the limit is read as it was sent. -/
theorem readLine_frame (free : newline ∉ bytes) (short : bytes.length < limit)
    (ended : Bool) :
    readLine limit (bytes ++ [newline]) ended = some (bytes ++ [newline]) := by
  have whole : (bytes ++ [newline]).take limit = bytes ++ [newline] :=
    take_of_length_le (by simpa using Nat.succ_le_of_lt short)
  rw [readLine, whole, readUntil_frame free []]
  simp

/-- How the turn of a client ends. -/
inductive Turn (State Result : Type) where
  | next (state : State)
  | waiting
  | over (result : Result)

section

variable {Client State Result : Type}

/-- Handle the clients in turn, until one keeps the server or stops it. -/
def serve (handle : Client → State → Turn State Result) : State → List Client → Turn State Result
  | state, [] => .next state
  | state, client :: rest =>
    match handle client state with
    | .next following => serve handle following rest
    | .waiting => .waiting
    | .over result => .over result

/-- The server returns. -/
def Turn.Returns (turn : Turn State Result) : Prop := ∃ result, turn = .over result

@[simp]
theorem not_returns_next : ¬(Turn.next state : Turn State Result).Returns := by
  rintro ⟨_, same⟩
  cases same

@[simp]
theorem not_returns_waiting : ¬(Turn.waiting : Turn State Result).Returns := by
  rintro ⟨_, same⟩
  cases same

@[simp]
theorem returns_over : (Turn.over result : Turn State Result).Returns :=
  ⟨result, rfl⟩

/-- A server returns exactly when it gets to a client that stops it. -/
theorem serve_returns_iff {handle : Client → State → Turn State Result}
    {harmful : Client → Prop}
    (waits : ∀ client ∈ clients, ∀ state, finishes client = false → handle client state = .waiting)
    (stops : ∀ client ∈ clients, ∀ state, finishes client →
      harmful client → (handle client state).Returns)
    (goesOn : ∀ client ∈ clients, ∀ state, finishes client →
      ¬harmful client → ∃ following, handle client state = .next following)
    (state : State) :
    (serve handle state clients).Returns ↔
      ∃ client ∈ clients.takeWhile finishes, harmful client := by
  induction clients generalizing state with
  | nil => simp [serve]
  | cons client rest ih =>
    have later := ih (fun other member => waits other (mem_cons_of_mem _ member))
      (fun other member => stops other (mem_cons_of_mem _ member))
      (fun other member => goesOn other (mem_cons_of_mem _ member))
    rw [serve]
    cases finished : finishes client with
    | false =>
      rw [waits client mem_cons_self state finished]
      simp [finished]
    | true =>
      rw [takeWhile_cons_of_pos finished]
      by_cases harm : harmful client
      · obtain ⟨_, ended⟩ := stops client mem_cons_self state finished harm
        rw [ended]
        simp [harm]
      · obtain ⟨following, next⟩ := goesOn client mem_cons_self state finished harm
        rw [next]
        simp [harm, later following]

end

end Jackin.Foundation.Clients
