import SceneEngine.Identity.Sha1
import SceneEngine.Text.Hex

/-!
# Entity identifiers

An identifier is a number of 128 bits.  It is either derived from a seed, and then the same seed
always gives the same identifier, or drawn anew by the host; the two kinds never coincide because
they carry different version marks.

The host's draws are random, and a model has no randomness.  `drawn n` stands for the `n`-th of
them: all that counts is that draws differ from each other and from what is derived.

Identifiers are written with 32 hexadecimal digits, with or without hyphens, and read in either
form.  Their order is that of the numbers, which is also that of their digits.
-/

namespace SceneEngine

/-- A unique identifier of an entity.  Nothing can be read off it. -/
structure EntityId where
  bits : BitVec 128
  deriving DecidableEq, Inhabited

namespace EntityId

/-- The seeds' name space, which keeps these identifiers apart from those that others derive from
the same seeds. -/
def seedSpace : BitVec 128 := 0x7e55e1a04c0f4e2b9d1c51e67a1d0b00

/-- The seed of the entity that holds shared components. -/
def singletonSeed : String := "tessel.singleton"

/-- Puts a version mark and the variant mark of the common layout over the bits of a number. -/
def mark (version : Nat) (n : Nat) : BitVec 128 :=
  let high := (n >>> 80) <<< 80
  let middle := (n >>> 64 &&& 0xfff) <<< 64
  let low := n &&& 0x3fffffffffffffff
  BitVec.ofNat 128 (high + version <<< 76 + middle + 1 <<< 63 + low)

/-- The identifier derived from a seed: the first sixteen bytes of a digest, marked as version
five. -/
def ofSeed (seed : String) : EntityId :=
  let bytes := Sha1.bigEndian 16 seedSpace.toNat ++ seed.toUTF8.toList
  ⟨mark 5 (Sha1.ofBigEndian ((Sha1.digest bytes).take 16))⟩

/-- The identifier of the entity that holds shared components. -/
def singleton : EntityId := ofSeed singletonSeed

/-- The identifier that stands for the `n`-th random draw, marked as version four. -/
def drawn (n : Nat) : EntityId := ⟨mark 4 (n <<< 80)⟩

/-- The plain form: 32 hexadecimal digits. -/
def text (id : EntityId) : String := Hex.encode 32 id.bits.toNat

/-- The form with hyphens, in groups of 8, 4, 4, 4 and 12 digits. -/
def hyphenated (id : EntityId) : String :=
  let digits := Hex.digits 32 id.bits.toNat
  let part (start count : Nat) := String.ofList ((digits.drop start).take count)
  "-".intercalate [part 0 8, part 8 4, part 12 4, part 16 4, part 20 12]

/-- Reads either form, in either case.  The marks are not checked. -/
def parse? (s : String) : Option EntityId :=
  let cs := s.toList
  let digits? : Option (List Char) :=
    if cs.length = 32 then some cs
    else if cs.length = 36 && [8, 13, 18, 23].all (fun i => cs[i]? == some '-') then
      some ([(0, 8), (9, 4), (14, 4), (19, 4), (24, 12)].flatMap fun (start, count) =>
        (cs.drop start).take count)
    else none
  digits?.bind fun digits => (Hex.decode? digits).map fun n => ⟨BitVec.ofNat 128 n⟩

instance : LT EntityId := ⟨fun a b => a.bits.toNat < b.bits.toNat⟩

instance (a b : EntityId) : Decidable (a < b) :=
  inferInstanceAs (Decidable (a.bits.toNat < b.bits.toNat))

/-- Whether `a` comes before `b` or is `b`; identifiers are ordered by their bytes. -/
def precedes (a b : EntityId) : Bool := a.bits.toNat ≤ b.bits.toNat

end EntityId

end SceneEngine
