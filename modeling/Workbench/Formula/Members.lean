import Workbench.Formula.Order

/-! Sets of values. Equal values have equal hashes, and the hash of a value decides the slot in which a
set keeps it; the members of a set come in the order of their slots. -/

set_option autoImplicit false

namespace Workbench.Formula

def hashPrime : Nat := Number.twoTo 61 - 1

def wordSize : Nat := Number.twoTo 64

/-- A signed hash as a word; minus one is no hash. -/
def hashWord (n : Int) : Nat :=
  let n := if n == -1 then -2 else n
  (n.emod wordSize).toNat

def signedHash (negative : Bool) (magnitude : Nat) : Int :=
  let remainder : Int := (magnitude % hashPrime : Nat)
  if negative then -remainder else remainder

/-- The hash of a double is that of the fraction it stands for, powers of two taken by the prime. -/
def hashFloat (x : Float) : Int :=
  match Number.Binary64.ofFloat x with
  | .undefined => 0
  | .infinite negative => if negative then -314159 else 314159
  | .finite negative significand exponent =>
    signedHash negative (significand * Number.twoTo (exponent.emod 61).toNat)

def rotateWord (count n : Nat) : Nat :=
  (n * Number.twoTo count + n / Number.twoTo (64 - count)) % wordSize

def tupleStart : Nat := 2870177450012600261

def mixHash (mixed item : Nat) : Nat :=
  rotateWord 31 ((mixed + item * 14029467366897019727) % wordSize) * 11400714785074694791 % wordSize

mutual

def Value.hash : Value → Nat
  | .int n => hashWord (signedHash (n < 0) n.natAbs)
  | .truth b => if b then 1 else 0
  | .float x => hashWord (hashFloat x)
  | .complex z => hashWord ((hashFloat z.re + 1000003 * hashFloat z.im).bmod wordSize)
  | .text codes | .bytes codes => codes.foldl (fun mixed code => (mixed * 1000003 + code) % wordSize) 7
  | .tuple items =>
    let mixed := (hashAll tupleStart items +
      Nat.xor items.length (Nat.xor tupleStart 3527539)) % wordSize
    if mixed == wordSize - 1 then 1546275796 else mixed
  | .list place | .set place | .mapping place | .view _ place | .function place | .generator place
  | .iterator _ place | .object _ place => 16 * place
  | _ => 0

def hashAll : Nat → List Value → Nat
  | mixed, [] => mixed
  | mixed, item :: rest => hashAll (mixHash mixed item.hash) rest

end

mutual

/-- The type of what keeps a value from being a key: whatever can change, or holds something that
can. -/
def Value.unhashable? : Value → Option String
  | .list _ => some "list"
  | .set _ => some "set"
  | .mapping _ => some "dict"
  | .slice .. => some "slice"
  | .view .keys _ => some "dict_keys"
  | .view .entries _ => some "dict_items"
  | .tuple items => unhashableIn? items
  | _ => none

def unhashableIn? : List Value → Option String
  | [] => none
  | item :: rest =>
    match item.unhashable? with
    | some type => some type
    | none => unhashableIn? rest

end

def requireKey (value : Value) : Except Fault Unit :=
  match value.unhashable? with
  | some type => throw (.unhashable type)
  | none => pure ()

namespace Members

/-- The slots that are looked at one after the other for a hash: runs of neighbours, then a jump;
`fuel` bounds the number of jumps. -/
def probes (size : Nat) : Nat → Nat → Nat → List Nat
  | 0, _, _ => []
  | fuel + 1, slot, rest =>
    let run := if slot + 9 < size then List.range' slot 10 else [slot]
    let rest := rest / 32
    run ++ probes size fuel ((slot * 5 + 1 + rest) % size) rest

def freeSlot? (slots : List (Option Value)) (value : Value) : Option Nat :=
  (probes slots.length (slots.length + 16) (value.hash % slots.length) value.hash).find? fun slot =>
    slots[slot]?.any Option.isNone

def insert (slots : List (Option Value)) (value : Value) : List (Option Value) :=
  match freeSlot? slots value with
  | some slot => slots.set slot (some value)
  | none => slots

def sizeAbove (wanted : Nat) : Nat → Nat → Nat
  | 0, size => size
  | fuel + 1, size => if size ≤ wanted then sizeAbove wanted fuel (2 * size) else size

def resize (wanted : Nat) (members : Members) : Members :=
  let slots := List.replicate (sizeAbove wanted 64 8) none
  ⟨members.toList.foldl insert slots, members.toList.length⟩

def contains (members : Members) (value : Value) : Bool :=
  members.toList.any fun member => member.same value

/-- Adds a value unless it is there; when three fifths of the slots have been used, there will be more
of them. -/
def add (members : Members) (value : Value) : Members :=
  if members.contains value then members
  else
    let grown : Members := ⟨insert members.slots value, members.filled + 1⟩
    if grown.filled * 5 < (grown.slots.length - 1) * 3 then grown
    else grown.resize (grown.toList.length * 4)

def remove (members : Members) (value : Value) : Members :=
  { members with
    slots := members.slots.map fun slot =>
      if slot.any fun member => member.same value then none else slot }

def ofList (values : List Value) : Members := values.foldl add {}

def makeRoom (count : Nat) (members : Members) : Members :=
  if (members.filled + count) * 5 < (members.slots.length - 1) * 3 then members
  else members.resize ((members.toList.length + count) * 2)

def merge (members others : Members) : Members :=
  let count := others.toList.length
  let members := members.makeRoom count
  if members.filled == 0 && members.slots.length == others.slots.length && others.filled == count then
    others
  else others.toList.foldl add members

end Members

def addKeys (values : List Value) (members : Members) : Except Fault Members := do
  values.forM requireKey
  return values.foldl Members.add members

def newSet (members : Members) : Eval Value := return .set (← allocate (.set members))

/-- The entries of a mapping with a value under a key; a new key comes last. -/
def putEntry (key value : Value) : List (Value × Value) → List (Value × Value)
  | [] => [(key, value)]
  | (other, old) :: rest =>
    if other.same key then (other, value) :: rest else (other, old) :: putEntry key value rest

end Workbench.Formula
