/-! White space: the blank characters, trimming, and squeezing of blank runs. -/

namespace SoftFail.Text

/-- The characters with the Unicode property White_Space. -/
def isBlank (c : Char) : Bool :=
  let n := c.toNat
  n == 0x20 || (0x9 ≤ n && n ≤ 0xD) ||
    (0x80 ≤ n && (n == 0x85 || n == 0xA0 || n == 0x1680 || (0x2000 ≤ n && n ≤ 0x200A) ||
      n == 0x2028 || n == 0x2029 || n == 0x202F || n == 0x205F || n == 0x3000))

def trim (s : List Char) : List Char :=
  ((s.dropWhile isBlank).reverse.dropWhile isBlank).reverse

def squeeze (s : List Char) : List Char :=
  s.foldr (fun c out =>
    if isBlank c then
      match out with
      | ' ' :: _ => out
      | _ => ' ' :: out
    else c :: out) []

theorem isBlank_space : isBlank ' ' = true := rfl

end SoftFail.Text
