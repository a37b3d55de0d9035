/-! The digests that can be asked for by name. -/
namespace SvelteTransform.Sandbox.Digest

inductive Kind where
  | md5
  | sha1
  | sha224
  | sha256
  | sha384
  | sha512
  | blake2b
  deriving DecidableEq, Repr

namespace Kind

def name : Kind → String
  | .md5 => "MD5"
  | .sha1 => "SHA1"
  | .sha224 => "SHA224"
  | .sha256 => "SHA256"
  | .sha384 => "SHA384"
  | .sha512 => "SHA512"
  | .blake2b => "BLAKE2b"

def all : List Kind := [.md5, .sha1, .sha224, .sha256, .sha384, .sha512, .blake2b]

def size : Kind → Nat
  | .md5 => 16
  | .sha1 => 20
  | .sha224 => 28
  | .sha256 => 32
  | .sha384 => 48
  | .sha512 | .blake2b => 64

end Kind
end SvelteTransform.Sandbox.Digest
