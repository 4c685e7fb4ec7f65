/-!
Reading a text of octets piece by piece. A piece is given the octets that follow its first one, and
says how many of them it takes.
-/

set_option autoImplicit false

namespace LiveChat.Text.Charset

/-- Characters, and how many octets they take after the first one. -/
structure Piece where
  chars : List Char
  more : Nat
  deriving Repr, DecidableEq

namespace Piece

def lost (more : Nat) : Piece := ⟨['\uFFFD'], more⟩

def ofChar? (char? : Option Char) (more : Nat) : Piece := ⟨[char?.getD '\uFFFD'], more⟩

def ofOctet (octet : UInt8) : Piece := ⟨[Char.ofNat octet.toNat], 0⟩

end Piece

/-- The characters that were `seen` before stand last first. -/
def readFrom {State : Type} (piece : State → UInt8 → List UInt8 → Piece × State) (seen : List Char)
    (state : State) : List UInt8 → List Char
  | [] => seen.reverse
  | first :: rest =>
      let taken := piece state first rest
      readFrom piece (taken.1.chars.reverse ++ seen) taken.2 (rest.drop taken.1.more)
  termination_by octets => octets.length
  decreasing_by simp only [List.length_drop, List.length_cons]; omega

/-- Reading where a piece does not depend on what stands before it. -/
def read (piece : UInt8 → List UInt8 → Piece) (octets : List UInt8) : String :=
  String.ofList (readFrom (fun _ first rest => (piece first rest, ())) [] () octets)

end LiveChat.Text.Charset
