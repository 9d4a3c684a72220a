import Dialogue.Text.Blank

/-! Lines of a text. A line ends at a newline; what follows the last newline is a line only if it
is not empty. -/
namespace Dialogue.Text

/-- What is left after the first `n` newlines. -/
def dropLines : Nat → List Char → List Char
  | 0, cs => cs
  | n + 1, cs => dropLines n (cs.dropWhile (· != '\n')).tail

/-- Line `n`, counted from one, without the blanks at its end. -/
def line? : Nat → List Char → Option (List Char)
  | 0, _ => none
  | n + 1, cs =>
    let rest := dropLines n cs
    if rest.isEmpty then none else some (trimEnd (rest.takeWhile (· != '\n')))

end Dialogue.Text
