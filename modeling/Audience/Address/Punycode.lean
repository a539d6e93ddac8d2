/-!
# Punycode

The names of hosts in other scripts are written in ASCII: first the characters
of ASCII as they are, then, in the order of their code points, where each other
character has to be put in.  Every place is a number of steps from the one
before it, in digits whose weights adapt to the numbers written so far.
-/

namespace Audience
namespace Punycode

/-- The digit of a value: a letter, or a figure from 26 on. -/
def digit (value : Nat) : Char :=
  Char.ofNat (if value < 26 then 0x61 + value else 0x30 + (value - 26))

/-- The bias after a number has been written, when so many characters are in
place. -/
def adapt (isFirst : Bool) (delta placed : Nat) : Nat :=
  let start := if isFirst then delta / 700 else delta / 2
  reduce start 0 (start + start / placed)
where
  /-- Scale a number down, one digit of base 35 at a time. -/
  reduce : Nat → Nat → Nat → Nat
    | 0, bias, delta => bias + 36 * delta / (delta + 38)
    | fuel + 1, bias, delta =>
        if 455 < delta then reduce fuel (bias + 36) (delta / 35)
        else bias + 36 * delta / (delta + 38)

/-- The least value of a digit that is not the last one of its number. -/
def threshold (position bias : Nat) : Nat :=
  if position ≤ bias + 1 then 1
  else if bias + 26 ≤ position then 26
  else position - bias

/-- A number in digits, least weight first; `fuel` bounds their count. -/
def digits (bias : Nat) : Nat → Nat → Nat → List Char
  | 0, _, _ => []
  | fuel + 1, position, value =>
      let least := threshold position bias
      if value < least then [digit value]
      else
        digit (least + (value - least) % (36 - least)) ::
          digits bias fuel (position + 36) ((value - least) / (36 - least))

/-- What is known between two characters: how many are in place, the steps
since the last number, the bias, and the text so far, last character first. -/
structure State where
  placed : Nat
  delta : Nat
  bias : Nat
  written : List Char

/-- Pass one character while those of one code point are put in. -/
def visit (basic code : Nat) (state : State) (char : Char) : State :=
  if char.toNat < code then { state with delta := state.delta + 1 }
  else if char.toNat = code then
    { placed := state.placed + 1
      delta := 0
      bias := adapt (state.placed == basic) state.delta (state.placed + 1)
      written :=
        (digits state.bias (state.delta + 1) 36 state.delta).reverse ++
          state.written }
  else state

/-- Put in the characters of several code points, given in increasing order;
`next` is the first code point that has not been passed. -/
def putIn (chars : List Char) (basic : Nat) :
    Nat → List Nat → State → State
  | _, [], state => state
  | next, code :: codes, state =>
      let start :=
        { state with
          delta := state.delta + (code - next) * (state.placed + 1) }
      let done := chars.foldl (visit basic code) start
      putIn chars basic (code + 1) codes { done with delta := done.delta + 1 }

/-- A text in characters of ASCII alone. -/
def encode (chars : List Char) : List Char :=
  let plain := chars.filter fun char => char.toNat < 0x80
  let codes := (chars.filter fun char => 0x80 ≤ char.toNat).map Char.toNat
  let front := if plain.isEmpty then [] else plain ++ ['-']
  (putIn chars plain.length 0x80 (codes.mergeSort.eraseDups)
    { placed := plain.length, delta := 0, bias := 72
      written := front.reverse }).written.reverse

end Punycode
end Audience
