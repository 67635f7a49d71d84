import ServerUtils.Loader.PasswordFile

/-!
# Encrypting and decrypting a password file

Contents that the key can encrypt survive the round trip, under every name.
Longer contents are refused, unless the conversion of the file size to `int`
makes the length short again: then the beginning of the content is encrypted
and the file is removed.
-/

namespace ServerUtils.Loader.PasswordRoundTrip

open ServerUtils.Foundation.Search
open ServerUtils.Parser.StdString
open ServerUtils.Loader.PasswordFile

variable {RSA : Type}

/-- The two ways in which a password file may be treated. -/
structure RoundTrips
    (openssl : OpenSSL RSA) (files : FileSystem)
    (name public_key_file private_key_file content : Bytes) (size : Nat) :
    Prop where
  short : content.length + 11 ≤ size →
    ∃ encrypted final,
      encryptPasswordFile openssl .complete files name public_key_file =
          some encrypted ∧
        decryptPasswordFileToMem openssl encrypted (name ++ str ".enc")
            private_key_file = some (content, encrypted) ∧
        decryptPasswordFile openssl .complete encrypted
            (name ++ str ".enc") private_key_file = some final ∧
        final name = some content ∧ final (name ++ str ".enc") = none ∧
        ∀ other, other ≠ name → other ≠ name ++ str ".enc" →
          final other = files other
  long : size < content.length + 11 →
    encryptPasswordFile openssl .complete files name public_key_file =
      some files

/-- The length is short, or its conversion to `int` is refused as well. -/
def LengthKept (size length : Nat) : Prop :=
  length + 11 ≤ size ∨ toInt length < 0 ∨ (size : Int) < toInt length + 11

section Keys

variable {openssl : OpenSSL RSA} {files : FileSystem}
variable {name public_key_file private_key_file : Bytes}
variable {content publicPem privatePem : Bytes}

/-- The size of the modulus of the public key. -/
def modulusSize (openssl : OpenSSL RSA) (publicPem : Bytes) : Nat :=
  openssl.rsaSize (openssl.readRSAPublicKey publicPem)

/-- A converted length that the key accepts: what is written is a text for the
beginning of the content, and the password file is gone. -/
theorem encryptPasswordFile_of_accepted
    (pair : KeyPair openssl publicPem privatePem)
    (isContent : files name = some content)
    (publicKey : files public_key_file = some publicPem)
    (nonneg : 0 ≤ toInt content.length)
    (fits : toInt content.length + 11 ≤ modulusSize openssl publicPem) :
    ∃ cipher,
      encryptPasswordFile openssl .complete files name public_key_file =
          some ((files.output .complete (name ++ str ".enc") cipher).remove
            name) ∧
        cipher.length = modulusSize openssl publicPem ∧
        openssl.rsaPrivateDecrypt cipher.length cipher
            (openssl.readRSAPrivateKey privatePem) =
          some (content.take (toInt content.length).toNat) := by
  have inside := toNat_toInt_le content.length
  have fitsNat : (toInt content.length).toNat + 11 ≤
      openssl.rsaSize (openssl.readRSAPublicKey publicPem) := by
    simp only [modulusSize] at fits
    omega
  rcases pair.encrypts (toInt content.length).toNat content inside fitsNat
    with ⟨cipher, encrypted, length, decrypts⟩
  rw [Int.toNat_of_nonneg nonneg] at encrypted
  exact ⟨cipher,
    encryptPasswordFile_of_encrypts isContent publicKey encrypted .complete,
    length, decrypts⟩

theorem encryptPasswordFile_of_refused
    (pair : KeyPair openssl publicPem privatePem)
    (isContent : files name = some content)
    (publicKey : files public_key_file = some publicPem)
    (refused : toInt content.length < 0 ∨
      (modulusSize openssl publicPem : Int) < toInt content.length + 11) :
    encryptPasswordFile openssl .complete files name public_key_file =
      some files := by
  have fails := pair.refuses (toInt content.length) content refused
  simp only [encryptPasswordFile, isContent, publicKey, Option.bind_eq_bind,
    Option.bind_some, fails]

/-- What a short content is encrypted to. -/
theorem exists_cipher_of_short
    (pair : KeyPair openssl publicPem privatePem)
    (short : content.length + 11 ≤ modulusSize openssl publicPem) :
    ∃ cipher,
      openssl.rsaPublicEncrypt (toInt content.length) content
          (openssl.readRSAPublicKey publicPem) = some cipher ∧
        openssl.rsaPrivateDecrypt (toInt cipher.length) cipher
          (openssl.readRSAPrivateKey privatePem) = some content := by
  have sizeIsInt : (modulusSize openssl publicPem : Int) ≤ intMax :=
    pair.sizeIsInt
  have same : toInt content.length = content.length :=
    toInt_of_le (by omega)
  rcases pair.encrypts content.length content (Nat.le_refl _) short with
    ⟨cipher, encrypts, length, decrypts⟩
  refine ⟨cipher, ?_, ?_⟩
  · rw [same]
    exact encrypts
  · have isInt : (cipher.length : Int) ≤ intMax := by
      rw [length]
      exact sizeIsInt
    rw [toInt_of_le isInt, decrypts, List.take_length]

/-- Decrypting a file whose text the key decrypts. -/
theorem decryptPasswordFileToMem_of_decrypts
    {encrypted_file_name cipher : Bytes}
    (isCipher : files encrypted_file_name = some cipher)
    (privateKey : files private_key_file = some privatePem)
    (decrypts : openssl.rsaPrivateDecrypt (toInt cipher.length) cipher
      (openssl.readRSAPrivateKey privatePem) = some content) :
    decryptPasswordFileToMem openssl files encrypted_file_name
        private_key_file = some (content, files) := by
  simp only [decryptPasswordFileToMem, isCipher, privateKey,
    Option.bind_eq_bind, Option.bind_some, decrypts]

/-- A content that the key can encrypt survives, under every name. -/
theorem roundTrip_of_short
    (pair : KeyPair openssl publicPem privatePem)
    (isContent : files name = some content)
    (publicKey : files public_key_file = some publicPem)
    (privateKey : files private_key_file = some privatePem)
    (apart : private_key_file ≠ name)
    (apartEnc : private_key_file ≠ name ++ str ".enc")
    (short : content.length + 11 ≤ modulusSize openssl publicPem) :
    ∃ encrypted final,
      encryptPasswordFile openssl .complete files name public_key_file =
          some encrypted ∧
        decryptPasswordFileToMem openssl encrypted (name ++ str ".enc")
            private_key_file = some (content, encrypted) ∧
        decryptPasswordFile openssl .complete encrypted
            (name ++ str ".enc") private_key_file = some final ∧
        final name = some content ∧ final (name ++ str ".enc") = none ∧
        ∀ other, other ≠ name → other ≠ name ++ str ".enc" →
          final other = files other := by
  rcases exists_cipher_of_short pair short with
    ⟨cipher, encrypted, decrypts⟩
  have encrypts := encryptPasswordFile_of_encrypts isContent publicKey
    encrypted .complete
  have differ := ne_append_enc name
  have isCipher :
      ((files.output .complete (name ++ str ".enc") cipher).remove name)
        (name ++ str ".enc") = some cipher := by
    simp [differ]
  have stillKey :
      ((files.output .complete (name ++ str ".enc") cipher).remove name)
        private_key_file = some privatePem := by
    simp [apart, apartEnc, privateKey]
  refine ⟨_, _, encrypts,
    decryptPasswordFileToMem_of_decrypts isCipher stillKey decrypts,
    decryptPasswordFile_of_decrypts (passwordFileName_append name) isCipher
      stillKey decrypts .complete,
    ?_, ?_, ?_⟩
  · simp [differ.symm]
  · simp
  · intro other notName notEnc
    simp [notName, notEnc]

/--
For every file system, name and content: the file is treated as it should be
exactly when its length is short, or is refused after the conversion to `int`.
-/
theorem roundTrips_iff_lengthKept
    (openssl : OpenSSL RSA) (files : FileSystem)
    (name public_key_file private_key_file : Bytes)
    (content publicPem privatePem : Bytes)
    (pair : KeyPair openssl publicPem privatePem)
    (isContent : files name = some content)
    (publicKey : files public_key_file = some publicPem)
    (privateKey : files private_key_file = some privatePem)
    (apart : private_key_file ≠ name)
    (apartEnc : private_key_file ≠ name ++ str ".enc") :
    RoundTrips openssl files name public_key_file private_key_file content
        (modulusSize openssl publicPem) ↔
      LengthKept (modulusSize openssl publicPem) content.length := by
  constructor
  · intro roundTrips
    by_contra lost
    simp only [LengthKept, not_or, Nat.not_le, Int.not_lt] at lost
    rcases lost with ⟨long, nonneg, fits⟩
    rcases encryptPasswordFile_of_accepted pair isContent publicKey nonneg
        fits with
      ⟨cipher, encrypts, -⟩
    have unchanged := roundTrips.long long
    rw [encrypts] at unchanged
    have gone := congrFun (Option.some.inj unchanged) name
    rw [isContent] at gone
    simp at gone
  · intro kept
    refine ⟨roundTrip_of_short pair isContent publicKey privateKey apart
      apartEnc, fun long => ?_⟩
    rcases kept with short | refused
    · omega
    · exact encryptPasswordFile_of_refused pair isContent publicKey refused

end Keys

/-! ## A key of 64 bytes -/

/-- A block of 64 bytes with PKCS1 padding. -/
def padded (text : Bytes) : Bytes :=
  0 :: 2 :: (List.replicate (61 - text.length) 255 ++ 0 :: text)

/-- PKCS1 padding, and the identity in place of the modular power. -/
def paddingOnly : OpenSSL Unit where
  readRSAPublicKey := fun _ => ()
  readRSAPrivateKey := fun _ => ()
  rsaSize := fun _ => 64
  rsaPublicEncrypt := fun flen source _ =>
    if 0 ≤ flen ∧ flen + 11 ≤ 64 then some (padded (source.take flen.toNat))
    else none
  rsaPrivateDecrypt := fun flen source _ =>
    if flen = 64 then
      some ((source.drop 2).dropWhile fun byte => byte ≠ 0).tail
    else none

theorem padded_length {text : Bytes} (fits : text.length + 11 ≤ 64) :
    (padded text).length = 64 := by
  simp only [padded, List.length_cons, List.length_append,
    List.length_replicate]
  omega

theorem unpad_padded (text : Bytes) :
    (((padded text).drop 2).dropWhile fun byte => byte ≠ 0).tail = text := by
  have filler : ∀ byte ∈ List.replicate (61 - text.length) (255 : UInt8),
      decide (byte ≠ 0) = true := by
    intro byte member
    rw [(List.mem_replicate.mp member).2]
    decide
  have dropped : (padded text).drop 2 =
      List.replicate (61 - text.length) 255 ++ 0 :: text := rfl
  rw [dropped, List.dropWhile_append_of_pos filler]
  rfl

theorem paddingOnly_keyPair (publicPem privatePem : Bytes) :
    KeyPair paddingOnly publicPem privatePem where
  sizeIsInt := (by decide : (64 : Int) ≤ intMax)
  encrypts := by
    intro flen source inside fits
    change flen + 11 ≤ 64 at fits
    have taken : (source.take flen).length + 11 ≤ 64 := by
      rw [List.length_take]
      omega
    have length := padded_length taken
    refine ⟨padded (source.take flen), ?_, length, ?_⟩
    · exact if_pos ⟨by omega, by omega⟩
    · rw [length]
      exact congrArg some (unpad_padded _)
  refuses := by
    intro flen source refused
    have outside : ¬ (0 ≤ flen ∧ flen + 11 ≤ 64) := by
      change flen < 0 ∨ (64 : Int) < flen + 11 at refused
      omega
    exact if_neg outside

/-- A password file next to the two key files. -/
def passwordFiles (content : Bytes) : FileSystem := fun path =>
  if path = str "pw.enc" then some content
  else if path = str "pub.pem" then some (str "public")
  else if path = str "priv.pem" then some (str "private")
  else none

theorem passwordFiles_roundTrips_iff :
    RoundTrips paddingOnly (passwordFiles (str "secret")) (str "pw.enc")
        (str "pub.pem") (str "priv.pem") (str "secret")
        (modulusSize paddingOnly (str "public")) ↔
      LengthKept (modulusSize paddingOnly (str "public"))
        (str "secret").length :=
  roundTrips_iff_lengthKept paddingOnly (passwordFiles (str "secret"))
    (str "pw.enc") (str "pub.pem") (str "priv.pem") (str "secret")
    (str "public") (str "private") (paddingOnly_keyPair _ _) (by decide)
    (by decide) (by decide) (by decide) (by decide)

/-- A file of 4 GiB, whose size is 0 as an `int`. -/
def fourGiB : Bytes := List.replicate 4294967296 0

theorem fourGiB_length : fourGiB.length = 4294967296 :=
  List.length_replicate

/-- The file is encrypted as if it were empty, and removed. -/
theorem fourGiB_not_roundTrips :
    KeyPair paddingOnly (str "public") (str "private") ∧
      passwordFiles fourGiB (str "pw.enc") = some fourGiB ∧
      ¬ RoundTrips paddingOnly (passwordFiles fourGiB) (str "pw.enc")
        (str "pub.pem") (str "priv.pem") fourGiB
        (modulusSize paddingOnly (str "public")) := by
  have pair := paddingOnly_keyPair (str "public") (str "private")
  have isContent : passwordFiles fourGiB (str "pw.enc") = some fourGiB :=
    if_pos rfl
  refine ⟨pair, isContent, fun roundTrips => ?_⟩
  have wrapped : toInt fourGiB.length = 0 := by
    rw [fourGiB_length]
    decide
  have publicKey :
      passwordFiles fourGiB (str "pub.pem") = some (str "public") := rfl
  have nonneg : 0 ≤ toInt fourGiB.length := Int.le_of_eq wrapped.symm
  have fits : toInt fourGiB.length + 11 ≤
      modulusSize paddingOnly (str "public") := by
    rw [wrapped]
    decide
  have unchanged := roundTrips.long (by
    rw [fourGiB_length]
    decide)
  rcases encryptPasswordFile_of_accepted pair isContent publicKey nonneg
      fits with
    ⟨cipher, encrypts, -⟩
  rw [encrypts] at unchanged
  have gone := congrFun (Option.some.inj unchanged) (str "pw.enc")
  rw [isContent] at gone
  simp at gone

end ServerUtils.Loader.PasswordRoundTrip
