import CardLink.Text.Number

/-! Words whose bits carry names: set operations on them, and the text that lists the names. -/

namespace CardLink

/-- The names given to the bits of a word, in the order in which they are listed. -/
structure FlagLayout where
  /-- The name of the whole word. -/
  title : String
  /-- Each named flag with its bits. -/
  named : List (String × UInt32)

/-- The bits that have a name. -/
def FlagLayout.known (layout : FlagLayout) : UInt32 :=
  layout.named.foldl (fun bits flag => bits ||| flag.2) 0

/-- Every bit of the second word is set in the first. -/
def containsBits (bits wanted : UInt32) : Bool :=
  bits &&& wanted == wanted

/-- The two words share a set bit. -/
def sharesBits (bits other : UInt32) : Bool :=
  bits &&& other != 0

/-- The names of the flags that are set, in their listed order. -/
def FlagLayout.names (layout : FlagLayout) (bits : UInt32) : List String :=
  (layout.named.filter fun flag => containsBits bits flag.2).map Prod.fst

/-- The set bits that have no name. -/
def FlagLayout.unnamed (layout : FlagLayout) (bits : UInt32) : UInt32 :=
  bits &&& ~~~layout.known

/-- The word with its nameless bits cleared. -/
def FlagLayout.truncate (layout : FlagLayout) (bits : UInt32) : UInt32 :=
  bits &&& layout.known

/-- The word itself, provided that every set bit has a name. -/
def FlagLayout.checked? (layout : FlagLayout) (bits : UInt32) : Option UInt32 :=
  if layout.unnamed bits = 0 then some bits else none

/-- Every named bit is set. -/
def FlagLayout.isAll (layout : FlagLayout) (bits : UInt32) : Bool :=
  containsBits bits layout.known

/-- The named bits that are clear. -/
def FlagLayout.complement (layout : FlagLayout) (bits : UInt32) : UInt32 :=
  layout.truncate (~~~bits)

/-- The title with the set names and, last, the nameless rest in hexadecimal. -/
def FlagLayout.text (layout : FlagLayout) (bits : UInt32) : String :=
  -- An empty word is shown as zero, since it has neither a name nor a rest.
  let rest := layout.unnamed bits
  let parts := layout.names bits ++ if rest = 0 then [] else [hexadecimal 1 rest.toNat]
  let shown := if parts.isEmpty then hexadecimal 1 0 else " | ".intercalate parts
  layout.title ++ "(" ++ shown ++ ")"

end CardLink
