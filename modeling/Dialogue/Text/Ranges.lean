/-! Character classes given as a table of code point ranges, both ends included. -/
namespace Dialogue.Text

abbrev Ranges := Array (UInt32 × UInt32)

def Ranges.contains (ranges : Ranges) (c : Char) : Bool :=
  ranges.any fun (first, last) => first ≤ c.val && c.val ≤ last

end Dialogue.Text
