import ServerUtils.Loader.PasswordRoundTrip

/-!
# The copy that decrypting leaves

Where `.enc` does not occur in the name of the encrypted file, `rfind` returns
`npos` and the output has the name of the input.  The text is then written
over the encrypted file, and removed with it.
-/

namespace ServerUtils.Loader.OnlyCopy

open ServerUtils.Parser.StdString
open ServerUtils.Loader.PasswordFile
open ServerUtils.Loader.PasswordRoundTrip

variable {RSA : Type}

/-- Some path holds the content. -/
def HoldsCopy (files : FileSystem) (content : Bytes) : Prop :=
  ∃ path, files path = some content

/-- Decrypting returns, and leaves a copy of the content. -/
def LeavesCopy
    (openssl : OpenSSL RSA) (files : FileSystem)
    (encrypted_file_name private_key_file content : Bytes) : Prop :=
  ∃ final,
    decryptPasswordFile openssl .complete files encrypted_file_name
        private_key_file = some final ∧
      HoldsCopy final content

/-- Another file has the content already. -/
def HeldElsewhere
    (files : FileSystem) (encrypted_file_name content : Bytes) : Prop :=
  ∃ path, path ≠ encrypted_file_name ∧ files path = some content

section Outputs

variable {files : FileSystem} {name encrypted_file_name content : Bytes}

/-- An output under another name is the copy. -/
theorem holdsCopy_of_ne (differs : name ≠ encrypted_file_name) :
    HoldsCopy
      ((files.output .complete name content).remove encrypted_file_name)
      content := by
  refine ⟨name, ?_⟩
  simp [differs]

/-- An output over the input is removed with it. -/
theorem holdsCopy_same_iff :
    HoldsCopy
        ((files.output .complete encrypted_file_name content).remove
          encrypted_file_name)
        content ↔
      HeldElsewhere files encrypted_file_name content := by
  refine exists_congr fun path => ?_
  by_cases same : path = encrypted_file_name
  · simp [same]
  · simp [same]

end Outputs

section Names

variable {openssl : OpenSSL RSA} {files : FileSystem}
variable {encrypted_file_name private_key_file : Bytes}
variable {cipher privatePem content : Bytes}

theorem leavesCopy_of_occurs
    (isCipher : files encrypted_file_name = some cipher)
    (privateKey : files private_key_file = some privatePem)
    (decrypts : openssl.rsaPrivateDecrypt (toInt cipher.length) cipher
      (openssl.readRSAPrivateKey privatePem) = some content)
    (occurs : str ".enc" <:+: encrypted_file_name) :
    LeavesCopy openssl files encrypted_file_name private_key_file
      content := by
  rcases passwordFileName_of_occurs occurs with ⟨name, named, differs⟩
  have decrypted := decryptPasswordFile_of_decrypts named isCipher privateKey
    decrypts .complete
  exact ⟨_, decrypted, holdsCopy_of_ne differs⟩

/-- Without the ending only another file can have the content. -/
theorem leavesCopy_of_absent_iff
    (isCipher : files encrypted_file_name = some cipher)
    (privateKey : files private_key_file = some privatePem)
    (decrypts : openssl.rsaPrivateDecrypt (toInt cipher.length) cipher
      (openssl.readRSAPrivateKey privatePem) = some content)
    (absent : ¬ str ".enc" <:+: encrypted_file_name) :
    LeavesCopy openssl files encrypted_file_name private_key_file content ↔
      HeldElsewhere files encrypted_file_name content := by
  have named := passwordFileName_of_absent absent
  have decrypted := decryptPasswordFile_of_decrypts named isCipher privateKey
    decrypts .complete
  simp only [LeavesCopy, decrypted, Option.some.injEq, exists_eq_left',
    holdsCopy_same_iff]

end Names

/--
Under every name: decrypting leaves a copy of the text exactly when `.enc`
occurs in the name, or another file has the text already.
-/
theorem leavesCopy_iff_enc_occurs
    (openssl : OpenSSL RSA) (files : FileSystem)
    (encrypted_file_name private_key_file : Bytes)
    (cipher privatePem content : Bytes)
    (isCipher : files encrypted_file_name = some cipher)
    (privateKey : files private_key_file = some privatePem)
    (decrypts : openssl.rsaPrivateDecrypt (toInt cipher.length) cipher
      (openssl.readRSAPrivateKey privatePem) = some content) :
    LeavesCopy openssl files encrypted_file_name private_key_file content ↔
      str ".enc" <:+: encrypted_file_name ∨
        HeldElsewhere files encrypted_file_name content := by
  by_cases occurs : str ".enc" <:+: encrypted_file_name
  · have leaves := leavesCopy_of_occurs isCipher privateKey decrypts occurs
    exact iff_of_true leaves (Or.inl occurs)
  · rw [leavesCopy_of_absent_iff isCipher privateKey decrypts occurs,
      or_iff_right occurs]

/-- An encrypted password under this name, next to the private key. -/
def encryptedFiles (name : Bytes) : FileSystem := fun path =>
  if path = name then some (padded (str "secret"))
  else if path = str "priv.pem" then some (str "private")
  else none

theorem encryptedFiles_leavesCopy_iff :
    LeavesCopy paddingOnly (encryptedFiles (str "pw.enc.bak"))
        (str "pw.enc.bak") (str "priv.pem") (str "secret") ↔
      str ".enc" <:+: str "pw.enc.bak" ∨
        HeldElsewhere (encryptedFiles (str "pw.enc.bak"))
          (str "pw.enc.bak") (str "secret") :=
  leavesCopy_iff_enc_occurs paddingOnly (encryptedFiles (str "pw.enc.bak"))
    (str "pw.enc.bak") (str "priv.pem") (padded (str "secret"))
    (str "private") (str "secret") (by decide) (by decide) (by decide)

/-- Under the name `pw`, the password is lost. -/
theorem encryptedFiles_not_leavesCopy :
    encryptedFiles (str "pw") (str "pw") = some (padded (str "secret")) ∧
      paddingOnly.rsaPrivateDecrypt
          (toInt (padded (str "secret")).length) (padded (str "secret")) () =
        some (str "secret") ∧
      ¬ LeavesCopy paddingOnly (encryptedFiles (str "pw")) (str "pw")
        (str "priv.pem") (str "secret") := by
  have isCipher : encryptedFiles (str "pw") (str "pw") =
      some (padded (str "secret")) := by decide
  have privateKey : encryptedFiles (str "pw") (str "priv.pem") =
      some (str "private") := by decide
  have decrypts : paddingOnly.rsaPrivateDecrypt
      (toInt (padded (str "secret")).length) (padded (str "secret")) () =
        some (str "secret") := by decide
  refine ⟨isCipher, decrypts, fun leaves => ?_⟩
  rcases (leavesCopy_of_absent_iff isCipher privateKey decrypts
      (by decide)).mp leaves with
    ⟨path, differs, held⟩
  rw [encryptedFiles, if_neg differs] at held
  split_ifs at held
  exact absurd held (by decide)

end ServerUtils.Loader.OnlyCopy
