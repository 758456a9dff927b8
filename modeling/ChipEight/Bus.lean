import ChipEight.Memory

/-!
# Requests to memory

Memory is asked to read a byte, to write one, to look at one, to place a program or to hand over its
record.  The numbers in a request are those of whoever asks, and may be any.  A request is carried
out in place, one change after the other, and one that is refused leaves behind whatever it has
changed by then, so that one can see whether it looks before it acts.
-/

namespace ChipEight.Memory

/-- What memory can be asked for. -/
inductive Request where
  | read (address : Int)
  | write (address data : Int)
  | peek (address : Int)
  | load (values : List Int)
  | takeLog
  deriving DecidableEq, Repr

/-- What memory gives back when it has carried out a request. -/
inductive Answer where
  | byte (data : UInt8)
  | done
  | log (accesses : List Access)
  deriving DecidableEq, Repr

/-- A change of memory in place, with a result or a refusal at its end. -/
abbrev Errand : Type → Type := EStateM Refusal Memory

/-- The place that an address names. -/
def find (address : Int) : Errand Address :=
  match locate address with
  | .ok place => return place
  | .error fault => throw (.fault fault)

/-- Puts a byte at a place. -/
def replace (place : Address) (data : UInt8) : Errand Unit :=
  modify fun m => m.withByte place data

/-- Enters an access on the record. -/
def enter (access : Access) : Errand Unit :=
  modify fun m => { m with log := m.log ++ [access] }

/-- The bytes that some integers spell. -/
def spelled (values : List Int) : Errand (List UInt8) :=
  match bytesOf? values with
  | some program => return program
  | none => throw .byteRange

/-- What is done about a request, step by step. -/
def errand : Request → Errand Answer
  | .read address => do
      let place ← find address
      let data := (← get).byte place
      enter (.read place data)
      return .byte data
  | .write address data => do
      let place ← find address
      if 0 ≤ data ∧ data ≤ 255 then
        let byte := UInt8.ofNat data.toNat
        let previous := (← get).byte place
        replace place byte
        enter (.write place byte previous)
        return .done
      else throw (.notByte data)
  | .peek address => do
      let place ← find address
      return .byte ((← get).byte place)
  | .load values => do
      let program ← spelled values
      match (← get).loadProgram program with
      | .ok after =>
          set after
          return .done
      | .error fault => throw (.fault fault)
  | .takeLog => do
      let (accesses, after) := (← get).takeLog
      set after
      return .log accesses

/-- What a request comes to, and the memory that it leaves behind. -/
def ask (m : Memory) (request : Request) : Except Refusal Answer × Memory :=
  match (errand request).run m with
  | .ok answer after => (.ok answer, after)
  | .error cause after => (.error cause, after)

/-- Memory after requests, whether they are refused or not. -/
def askAll (m : Memory) : List Request → Memory
  | [] => m
  | request :: rest => (m.ask request).2.askAll rest

/-- Requests, each with what it comes to, one after the other. -/
def exchanges (m : Memory) : List Request → List (Request × Except Refusal Answer)
  | [] => []
  | request :: rest => (request, (m.ask request).1) :: (m.ask request).2.exchanges rest

end ChipEight.Memory
