import LogAnomaly.Text.Digit
import LogAnomaly.Text.Pieces
import LogAnomaly.Text.Word

/-!
# Placeholders

Words that vary from message to message stand for a kind of value. Each kind is a class of words:

* `isIpv4`: four groups of one to three digits with points between them, perhaps a port;
* `isNumber`: groups of digits with points, commas or colons between them, perhaps a sign;
* `isHex`: `0x` and digits of base sixteen;
* `isEmail`: a local part and a domain of at least two labels;
* `isIpv6`: three to eight groups of up to four digits of base sixteen with colons between them.

`placeholder?` names the first class that a word belongs to, in this order.
-/

namespace LogAnomaly

open LogAnomaly.Text

/-- Whether a group has from `least` to `most` characters, all of a class. -/
def isGroup (isMember : Char → Bool) (least most : Nat) (s : List Char) : Bool :=
  least ≤ s.length && s.length ≤ most && s.all isMember

/-- An IPv4 address, perhaps with a port. -/
def isIpv4 (s : List Char) : Bool :=
  let port := match s.dropWhile (· != ':') with
    | [] => true
    | _ :: digits => isGroup isDecimalDigit 1 5 digits
  let groups := pieces '.' (s.takeWhile (· != ':'))
  port && groups.length == 4 && groups.all (isGroup isDecimalDigit 1 3)

/-- The rest of a number; `afterDigit` tells whether it may end here. -/
def numberRest (afterDigit : Bool) : List Char → Bool
  | [] => afterDigit
  | c :: rest =>
    if isDecimalDigit c then numberRest true rest
    else afterDigit && (c == '.' || c == ',' || c == ':') && numberRest false rest

/-- A number, perhaps with a sign. -/
def isNumber : List Char → Bool
  | [] => false
  | c :: rest =>
    if c == '-' || c == '+' then numberRest false rest else numberRest false (c :: rest)

/-- A number of base sixteen. -/
def isHex : List Char → Bool
  | '0' :: x :: digits => (x == 'x' || x == 'X') && !digits.isEmpty && digits.all isHexDigit
  | _ => false

/-- A character of a label of a domain. -/
def isLabelChar (c : Char) : Bool := isWordChar c || c == '-'

/-- A character of the local part of an address. -/
def isLocalChar (c : Char) : Bool := isWordChar c || c == '.' || c == '+' || c == '-'

/-- An email address. -/
def isEmail (s : List Char) : Bool :=
  match s.dropWhile (· != '@') with
  | [] => false
  | _ :: domain =>
    let localPart := s.takeWhile (· != '@')
    let labels := pieces '.' domain
    !localPart.isEmpty && localPart.all isLocalChar && 2 ≤ labels.length &&
      labels.all fun label => !label.isEmpty && label.all isLabelChar

/-- An IPv6 address. -/
def isIpv6 (s : List Char) : Bool :=
  let groups := pieces ':' s
  3 ≤ groups.length && groups.length ≤ 8 && groups.all (isGroup isHexDigit 0 4)

/-- What stands for the value of a word, if it is one that varies. -/
def placeholder? (s : List Char) : Option (List Char) :=
  if isIpv4 s then some ['<', 'I', 'P', '>']
  else if isNumber s then some ['<', 'N', 'U', 'M', '>']
  else if isHex s then some ['<', 'H', 'E', 'X', '>']
  else if isEmail s then some ['<', 'E', 'M', 'A', 'I', 'L', '>']
  else if isIpv6 s then some ['<', 'I', 'P', '>']
  else none

end LogAnomaly
