import RegistryHive.DataBlock
import RegistryHive.KeyNameEntry
import RegistryHive.Navigation

/-! Registry files written from key trees. The hierarchy entries stand in the order of the tree, each
key before its sub keys; the key name entries fill data blocks of one capacity in the same order. -/
namespace RegistryHive

structure ValueRecord where
  /-- The number of the type. -/
  type : Nat
  name : Bytes
  data : Bytes
deriving DecidableEq, Repr

/-- What a key name entry says of its key. -/
structure KeyRecord where
  name : Bytes
  values : List ValueRecord
deriving DecidableEq, Repr

/-- Sibling keys in their order, each with its own sub keys. A key without a record has neither
name nor values. -/
inductive Siblings where
  | nil
  | cons (record : Option KeyRecord) (subKeys rest : Siblings)
deriving DecidableEq, Repr

namespace Siblings

/-- The number of keys, those below the siblings included. -/
def count : Siblings → Nat
  | .nil => 0
  | .cons _ subKeys rest => 1 + subKeys.count + rest.count

/-- The records of all keys that have one, each key before its sub keys. -/
def records : Siblings → List KeyRecord
  | .nil => []
  | .cons record subKeys rest => record.toList ++ subKeys.records ++ rest.records

end Siblings

/-- The stored form of an offset that may be missing. -/
def offsetField : Option Nat → Nat
  | none => 0xFFFFFFFF
  | some offset => offset

/-- The offset of a hierarchy entry by its place in the order of the tree. -/
def Navigation.entryOffset (place : Nat) : Nat := headerSize + HierarchyEntry.byteSize * place

/-- The location of a key name entry by its place in the order of the tree. -/
def Location.ofPlace (capacity place : Nat) : Location :=
  ⟨place / max 1 capacity, place % max 1 capacity⟩

def HierarchyEntry.toBytes (entry : HierarchyEntry) : Bytes :=
  Bytes.zeros 4 ++ .ofNumber 4 entry.nameHash ++ .zeros 4 ++ .ofNumber 4 entry.parent ++
    .ofNumber 4 entry.firstSubKey ++ .ofNumber 4 entry.nextSibling ++
    .ofNumber 2 entry.entryNumber ++ .ofNumber 2 entry.blockNumber

namespace Siblings

/-- The offset of the first of the siblings, which is at `place`, if there is one. -/
def offset? (place : Nat) : Siblings → Option Nat
  | .nil => none
  | .cons .. => some (Navigation.entryOffset place)

/-- The hierarchy entries of all keys. The first of the siblings is at `place`, and its record, if it
has one, at `recordPlace` among the records. -/
def hierarchy (capacity : Nat) (parent : Option Nat) (place recordPlace : Nat) :
    Siblings → List HierarchyEntry
  | .nil => []
  | .cons record subKeys rest =>
    let location : Location :=
      match record with
      | none => ⟨0xFFFF, 0xFFFF⟩
      | some _ => Location.ofPlace capacity recordPlace
    let following := place + 1 + subKeys.count
    let inner := recordPlace + record.toList.length
    { nameHash := 0
      parent := offsetField parent
      firstSubKey := offsetField (subKeys.offset? (place + 1))
      nextSibling := offsetField (rest.offset? following)
      entryNumber := location.entry
      blockNumber := location.block } ::
      subKeys.hierarchy capacity (some (Navigation.entryOffset place)) (place + 1) inner ++
      rest.hierarchy capacity parent following (inner + subKeys.records.length)

end Siblings

def ValueRecord.toBytes (value : ValueRecord) : Bytes :=
  Bytes.ofNumber 4 value.type ++ .zeros 4 ++ .ofNumber 2 value.name.length ++
    .ofNumber 2 value.data.length ++ value.name ++ value.data

namespace KeyRecord

/-- The key name entry of a key, which is the entry with a number in its data block. -/
def toBytes (number : Nat) (record : KeyRecord) : Bytes :=
  let values := record.values.flatMap ValueRecord.toBytes
  let size := KeyNameEntry.headerSize + record.name.length + values.length
  Bytes.ofNumber 4 size ++ .ofNumber 2 number ++ .zeros 2 ++ .ofNumber 4 size ++
    .ofNumber 2 record.name.length ++ .ofNumber 2 record.values.length ++ .zeros 4 ++
    record.name ++ values

/-- A data block with a number that holds the records. -/
def blockBytes (records : List KeyRecord) (number : Nat) : Bytes :=
  let entries := (records.mapIdx toBytes).flatten
  let size := BlockHeader.byteSize + entries.length
  Signature.dataBlock.bytes ++ .ofNumber 4 size ++ .zeros 6 ++ .ofNumber 2 number ++
    .ofNumber 4 size ++ .zeros 12 ++ entries

/-- Parts of `capacity` records, the last one perhaps with fewer. -/
def blocks (capacity : Nat) (records : List KeyRecord) : List (List KeyRecord) :=
  match records with
  | [] => []
  | first :: rest =>
    (first :: rest.take (capacity - 1)) :: blocks capacity (rest.drop (capacity - 1))
termination_by records.length
decreasing_by
  simp only [List.length_drop, List.length_cons]
  omega

end KeyRecord

/-- The registry file whose root key, without a record, has the sub keys `keys`. -/
def Siblings.toBytes (capacity : Nat) (keys : Siblings) : Bytes :=
  let root := Siblings.cons none keys .nil
  let hierarchy := (root.hierarchy capacity none 0 0).flatMap HierarchyEntry.toBytes
  let blocks := KeyRecord.blocks capacity keys.records
  let navigationSize := Navigation.headerSize + hierarchy.length
  Signature.file.bytes ++ .ofNumber 2 0 ++ .ofNumber 2 1 ++
    .ofNumber 4 (Navigation.start + navigationSize) ++ .zeros 4 ++ .ofNumber 2 blocks.length ++
    .zeros 14 ++
    Signature.navigation.bytes ++ .ofNumber 4 navigationSize ++
    .ofNumber 4 (Navigation.entryOffset 0) ++ .zeros 20 ++ hierarchy ++
    (blocks.mapIdx fun number records => KeyRecord.blockBytes records number).flatten

end RegistryHive
