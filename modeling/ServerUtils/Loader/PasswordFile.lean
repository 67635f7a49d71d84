import Mathlib.Logic.Function.Basic
import ServerUtils.Foundation.Search
import ServerUtils.Parser.StdString

/-!
# Encrypted password files

The file functions of `pass.cpp` over a file system that maps paths to their
contents.  OpenSSL is a parameter: its calls are fields of a structure, and
what is documented of a matching pair of keys is the predicate `KeyPair`.  The
environment decides what becomes of an output file, which the functions never
check.
-/

namespace ServerUtils.Loader.PasswordFile

open ServerUtils.Foundation.Search
open ServerUtils.Parser.StdString

/-- The files, by path. -/
abbrev FileSystem := Bytes → Option Bytes

/-- What becomes of a file that is opened for writing and written. -/
inductive OutputFate where
  | complete
  /-- opening or writing fails; `left` is what the path holds then -/
  | failed (left : Option Bytes)

/-- `std::ofstream` on a path, `write` and `close`. -/
def FileSystem.output
    (files : FileSystem) (fate : OutputFate) (path content : Bytes) :
    FileSystem :=
  match fate with
  | .complete => Function.update files path (some content)
  | .failed left => Function.update files path left

/-- `std::remove`. -/
def FileSystem.remove (files : FileSystem) (path : Bytes) : FileSystem :=
  Function.update files path none

/-- The OpenSSL calls; `none` is a result of -1. -/
structure OpenSSL (RSA : Type) where
  readRSAPublicKey : Bytes → RSA
  readRSAPrivateKey : Bytes → RSA
  rsaSize : RSA → Nat
  rsaPublicEncrypt : Int → Bytes → RSA → Option Bytes
  rsaPrivateDecrypt : Int → Bytes → RSA → Option Bytes

/-- The conversion of a 64-bit file size to the `int` of the RSA calls. -/
def toInt (size : Nat) : Int :=
  (size : Int).bmod 4294967296

variable {RSA : Type}

/--
`encrypt_password_file`.  The result `none` is a crash: the key file cannot be
opened and its null pointer is used.
-/
def encryptPasswordFile
    (openssl : OpenSSL RSA) (fate : OutputFate) (files : FileSystem)
    (password_file_name public_key_file : Bytes) : Option FileSystem :=
  let encrypted_file_name := password_file_name ++ str ".enc"
  match files password_file_name with
  | none => some files
  | some input => do
      let pem ← files public_key_file
      let rsa := openssl.readRSAPublicKey pem
      match openssl.rsaPublicEncrypt (toInt input.length) input rsa with
      | none => some files
      | some output =>
          let written := files.output fate encrypted_file_name output
          some (written.remove password_file_name)

/-- `decrypt_password_file_to_mem`: the stream, and the files after the call. -/
def decryptPasswordFileToMem
    (openssl : OpenSSL RSA) (files : FileSystem)
    (encrypted_file_name private_key_file : Bytes) :
    Option (Bytes × FileSystem) :=
  match files encrypted_file_name with
  | none => some ([], files)
  | some input => do
      let pem ← files private_key_file
      let rsa := openssl.readRSAPrivateKey pem
      match openssl.rsaPrivateDecrypt (toInt input.length) input rsa with
      | none => some ([], files)
      | some output => some (output, files)

/-- `encrypted_file_name.substr(0, encrypted_file_name.rfind(".enc"))`. -/
def passwordFileName (encrypted_file_name : Bytes) : Option Bytes :=
  (substr encrypted_file_name 0
    (rfind (str ".enc") encrypted_file_name)).toOption

/-- `decrypt_password_file`. -/
def decryptPasswordFile
    (openssl : OpenSSL RSA) (fate : OutputFate) (files : FileSystem)
    (encrypted_file_name private_key_file : Bytes) : Option FileSystem := do
  let password_file_name ← passwordFileName encrypted_file_name
  match files encrypted_file_name with
  | none => some files
  | some input => do
      let pem ← files private_key_file
      let rsa := openssl.readRSAPrivateKey pem
      match openssl.rsaPrivateDecrypt (toInt input.length) input rsa with
      | none => some files
      | some output =>
          let written := files.output fate password_file_name output
          some (written.remove encrypted_file_name)

/--
What is documented of a key pair with PKCS1 padding: a modulus size that is an
`int`, texts that are at least 11 bytes shorter are encrypted to a text of the
size of the modulus that decrypts to them, and other lengths are refused.
-/
structure KeyPair
    (openssl : OpenSSL RSA) (publicPem privatePem : Bytes) : Prop where
  sizeIsInt :
    (openssl.rsaSize (openssl.readRSAPublicKey publicPem) : Int) ≤ intMax
  encrypts : ∀ (flen : Nat) (source : Bytes), flen ≤ source.length →
    flen + 11 ≤ openssl.rsaSize (openssl.readRSAPublicKey publicPem) →
      ∃ cipher,
        openssl.rsaPublicEncrypt flen source
            (openssl.readRSAPublicKey publicPem) = some cipher ∧
          cipher.length =
            openssl.rsaSize (openssl.readRSAPublicKey publicPem) ∧
          openssl.rsaPrivateDecrypt cipher.length cipher
              (openssl.readRSAPrivateKey privatePem) =
            some (source.take flen)
  refuses : ∀ (flen : Int) (source : Bytes),
    flen < 0 ∨
        (openssl.rsaSize (openssl.readRSAPublicKey publicPem) : Int) <
          flen + 11 →
      openssl.rsaPublicEncrypt flen source
        (openssl.readRSAPublicKey publicPem) = none

/-! ## Names and lengths -/

/-- The name that is recovered from an encrypted file's name. -/
theorem passwordFileName_append (name : Bytes) :
    passwordFileName (name ++ str ".enc") = some name := by
  have last : rfind (str ".enc") (name ++ str ".enc") = some name.length :=
    rfind_append_self (by decide) name
  rw [passwordFileName, last, substr_before]
  rfl

/-- A name in which the ending does not occur is recovered whole. -/
theorem passwordFileName_of_absent
    {name : Bytes} (absent : ¬ str ".enc" <:+: name) :
    passwordFileName name = some name := by
  rw [passwordFileName, rfind_eq_none_iff.mpr absent]
  rfl

/-- What is recovered from any other name is shorter. -/
theorem passwordFileName_of_occurs
    {name : Bytes} (occurs : str ".enc" <:+: name) :
    ∃ before, passwordFileName name = some before ∧ before ≠ name := by
  cases found : rfind (str ".enc") name with
  | none => exact absurd occurs (rfind_eq_none_iff.mp found)
  | some position =>
      rcases exists_append_of_rfind found with ⟨before, after, glue, rfl⟩
      refine ⟨before, ?_, ?_⟩
      · rw [passwordFileName, found, glue, List.append_assoc, substr_before]
        rfl
      · rintro rfl
        have lengths := congrArg List.length glue
        have four : (str ".enc").length = 4 := rfl
        simp only [List.length_append] at lengths
        omega

theorem ne_append_enc (name : Bytes) : name ++ str ".enc" ≠ name := by
  intro equal
  have lengths := congrArg List.length equal
  have four : (str ".enc").length = 4 := rfl
  rw [List.length_append] at lengths
  omega

/-- Sizes that fit in an `int` are not changed. -/
theorem toInt_of_le {size : Nat} (bounded : (size : Int) ≤ intMax) :
    toInt size = size := by
  simp only [intMax] at bounded
  exact Int.bmod_eq_of_le (by omega) (by omega)

theorem bmod_natCast_le (value modulus : Nat) :
    (value : Int).bmod modulus ≤ value := by
  have reduced : (value : Int) % modulus ≤ value :=
    Int.ofNat_le.mpr (Nat.mod_le value modulus)
  rw [Int.bmod_def]
  split
  · exact reduced
  · omega

/-- The converted length is at most the size. -/
theorem toNat_toInt_le (size : Nat) : (toInt size).toNat ≤ size := by
  have bound : toInt size ≤ size := bmod_natCast_le size _
  omega

@[simp]
theorem FileSystem.output_complete
    (files : FileSystem) (path content other : Bytes) :
    files.output .complete path content other =
      if other = path then some content else files other :=
  Function.update_apply _ _ _ _

@[simp]
theorem FileSystem.remove_apply
    (files : FileSystem) (path other : Bytes) :
    files.remove path other = if other = path then none else files other :=
  Function.update_apply _ _ _ _

/-! ## Calls that get as far as the output -/

section Outputs

variable {openssl : OpenSSL RSA} {files : FileSystem}

/-- Encrypting a file whose content is accepted. -/
theorem encryptPasswordFile_of_encrypts
    {password_file_name public_key_file input pem output : Bytes}
    (isInput : files password_file_name = some input)
    (publicKey : files public_key_file = some pem)
    (encrypts : openssl.rsaPublicEncrypt (toInt input.length) input
      (openssl.readRSAPublicKey pem) = some output)
    (fate : OutputFate) :
    encryptPasswordFile openssl fate files password_file_name
        public_key_file =
      some ((files.output fate (password_file_name ++ str ".enc")
        output).remove password_file_name) := by
  simp only [encryptPasswordFile, isInput, publicKey, Option.bind_eq_bind,
    Option.bind_some, encrypts]

/-- Decrypting a file whose content is accepted. -/
theorem decryptPasswordFile_of_decrypts
    {encrypted_file_name password_file_name : Bytes}
    {private_key_file input pem output : Bytes}
    (named : passwordFileName encrypted_file_name = some password_file_name)
    (isInput : files encrypted_file_name = some input)
    (privateKey : files private_key_file = some pem)
    (decrypts : openssl.rsaPrivateDecrypt (toInt input.length) input
      (openssl.readRSAPrivateKey pem) = some output)
    (fate : OutputFate) :
    decryptPasswordFile openssl fate files encrypted_file_name
        private_key_file =
      some ((files.output fate password_file_name output).remove
        encrypted_file_name) := by
  simp only [decryptPasswordFile, named, isInput, privateKey,
    Option.bind_eq_bind, Option.bind_some, decrypts]

end Outputs

end ServerUtils.Loader.PasswordFile
