import HidAccess.ReportDescriptor.Item

/-!
# The usage of the first top-level collection

The first usage named outside all collections labels the next top-level collection. Its page is the
usage's own when it has four data bytes, else the page in force when the collection opens. A descriptor
that ends before such a collection, or within an item, has no usage.
-/

namespace HidAccess.ReportDescriptor

def usagePageTag : UInt8 := 0x04
def usageTag : UInt8 := 0x08
def collectionTag : UInt8 := 0xA0
def endCollectionTag : UInt8 := 0xC0

/-- A usage, with its page when it was written with one. -/
structure NamedUsage where
  page : Option UInt16
  usage : UInt16
  deriving DecidableEq, Repr

def NamedUsage.ofData (data : Bytes) : NamedUsage :=
  if data.length = 4 then ⟨some (UInt16.ofNat (number data / 65536)), UInt16.ofNat (number data)⟩
  else ⟨none, UInt16.ofNat (number data)⟩

structure Context where
  page : Option UInt16 := none
  usage : Option NamedUsage := none
  depth : Nat := 0
  deriving DecidableEq, Repr

/-- After one item: the search goes on, or the answer is known. -/
inductive Progress where
  | reading (c : Context)
  | answer (usage : Option (UInt16 × UInt16))

/-- A collection opens: at the top level it takes the usage named so far. -/
def Context.openCollection (c : Context) : Progress :=
  match c.depth, c.usage with
  | 0, some named => .answer ((named.page <|> c.page).map fun page => (page, named.usage))
  | _, _ => .reading { c with depth := c.depth + 1 }

def Context.item (c : Context) : Item → Progress
  | .long _ _ => .reading c
  | .short tag data =>
    if tag = usagePageTag then .reading { c with page := some (UInt16.ofNat (number data)) }
    else if tag = usageTag then
      if c.depth = 0 ∧ c.usage = none then .reading { c with usage := some (.ofData data) }
      else .reading c
    else if tag = collectionTag then c.openCollection
    else if tag = endCollectionTag then .reading { c with depth := c.depth - 1 }
    else .reading c

/-- Every item takes at least one byte, so the number of bytes is enough fuel. -/
def search : (fuel : Nat) → Context → Bytes → Option (UInt16 × UInt16)
  | 0, _, _ => none
  | fuel + 1, c, bs =>
    match Item.next? bs with
    | none => none
    | some (item, rest) =>
      match c.item item with
      | .answer usage => usage
      | .reading c => search fuel c rest

def topLevelUsage (descriptor : Bytes) : Option (UInt16 × UInt16) :=
  search descriptor.length {} descriptor

end HidAccess.ReportDescriptor
