import WebProof.Lib.Wire

/-!
# Signature schemes

Keys of 32 bytes and signatures of 64, as Ed25519 has them. A `Scheme` is any
three functions of these types; `Correct` is the one law that a signer and a
verifier of different parties rely on.
-/
namespace Lib.Signature

open Lib.Wire

structure Scheme where
  publicKey : Block 32 → Block 32
  sign : Block 32 → Bytes → Block 64
  verify : Block 32 → Bytes → Block 64 → Bool

/-- A signature made with a seed verifies under the key of that seed. -/
def Scheme.Correct (s : Scheme) : Prop :=
  ∀ seed message, s.verify (s.publicKey seed) message (s.sign seed message) = true

/-- A correct scheme in which one signature is a recorded one. -/
def Scheme.recording (seed key : Block 32) (message : Bytes) (signature : Block 64) : Scheme :=
  let publicKey s := if s = seed then key else s
  let signatureOf k m := if k = key ∧ m = message then signature else List.Vector.replicate 64 0
  { publicKey := publicKey
    sign := fun s m => signatureOf (publicKey s) m
    verify := fun k m σ => σ = signatureOf k m }

theorem Scheme.recording_correct (seed key : Block 32) (message : Bytes) (signature : Block 64) :
    (Scheme.recording seed key message signature).Correct := by
  intro s m
  simp [Scheme.recording]

theorem Scheme.recording_verify (seed key : Block 32) (message : Bytes) (signature : Block 64) :
    (Scheme.recording seed key message signature).verify key message signature = true := by
  simp [Scheme.recording]

end Lib.Signature
