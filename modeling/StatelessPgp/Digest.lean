import StatelessPgp.Failure.Basic

/-!
# The digest of a signed message

The value of the `micalg` parameter of a signed mail.  It is empty if the
signatures use different digests.
-/

namespace StatelessPgp

/-- A value of the `micalg` parameter. -/
structure MicAlg where
  /-- The value itself, without blank characters around it. -/
  text : String
  deriving DecidableEq, Repr

namespace MicAlg

def empty : MicAlg := ⟨""⟩

def ofText (text : String) : MicAlg := ⟨Text.strip text⟩

def isEmpty (micAlg : MicAlg) : Bool := micAlg.text.isEmpty

def names : List (Nat × String) :=
  [(1, "md5"), (2, "sha1"), (3, "ripemd160"), (8, "sha256"), (9, "sha384"),
    (10, "sha512"), (11, "sha224"), (12, "sha3-256"), (14, "sha3-512")]

def ofHashAlgorithm (number : UInt8) : Except Failure MicAlg :=
  match names.lookup number.toNat with
  | some name => .ok ⟨"pgp-" ++ name⟩
  | none =>
      .error (.new .unsupportedOption
        s!"Unsupported hash algorithm ID: {number.toNat}")

end MicAlg
end StatelessPgp
