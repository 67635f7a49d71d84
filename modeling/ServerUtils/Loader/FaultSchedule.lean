import ServerUtils.Foundation.Transition
import ServerUtils.Loader.PasswordRoundTrip

/-!
# Encrypting and decrypting under failing outputs

Runs of `encrypt_password_file(name)` and
`decrypt_password_file(name + ".enc")` in any order, with a fate of its own for
the output of every call.  Neither function looks at the state of its output
stream before it removes its input, so the only copy survives a run exactly
when the outputs do.
-/

namespace ServerUtils.Loader.FaultSchedule

open ServerUtils.Foundation.Transition
open ServerUtils.Parser.StdString
open ServerUtils.Loader.PasswordFile
open ServerUtils.Loader.PasswordRoundTrip

variable {RSA : Type}

/-- The calls, each with what becomes of its output. -/
inductive Label where
  | encrypt (fate : OutputFate)
  | decrypt (fate : OutputFate)

def call
    (openssl : OpenSSL RSA) (name public_key_file private_key_file : Bytes)
    (files : FileSystem) : Label → Option FileSystem
  | .encrypt fate =>
      encryptPasswordFile openssl fate files name public_key_file
  | .decrypt fate =>
      decryptPasswordFile openssl fate files (name ++ str ".enc")
        private_key_file

/-- A call that crashes is not a step. -/
def calls
    (openssl : OpenSSL RSA) (name public_key_file private_key_file : Bytes)
    (files : FileSystem) : Machine FileSystem Label where
  initial := files
  Enabled := fun files label =>
    (call openssl name public_key_file private_key_file files label).isSome =
      true
  next := fun files label =>
    (call openssl name public_key_file private_key_file files label).getD
      files

instance
    (openssl : OpenSSL RSA) (name public_key_file private_key_file : Bytes)
    (files start : FileSystem) (label : Label) :
    Decidable ((calls openssl name public_key_file private_key_file
      start).Enabled files label) :=
  inferInstanceAs (Decidable (_ = true))

/-- The private key decrypts this text to the content. -/
def Decrypts
    (openssl : OpenSSL RSA) (privatePem cipher content : Bytes) : Prop :=
  openssl.rsaPrivateDecrypt (toInt cipher.length) cipher
    (openssl.readRSAPrivateKey privatePem) = some content

/-- The encrypted file decrypts to the content. -/
def HoldsCipher
    (openssl : OpenSSL RSA) (name privatePem : Bytes) (files : FileSystem)
    (content : Bytes) : Prop :=
  ∃ cipher, files (name ++ str ".enc") = some cipher ∧
    Decrypts openssl privatePem cipher content

/-- One of the two files has the content. -/
def Survives
    (openssl : OpenSSL RSA) (name privatePem content : Bytes)
    (files : FileSystem) : Prop :=
  files name = some content ∨
    HoldsCipher openssl name privatePem files content

/-- The outputs that a call gets to are as good as complete, and decrypting
does not replace the content by another one. -/
def Keeps
    (openssl : OpenSSL RSA) (name privatePem content : Bytes)
    (files : FileSystem) : Label → Prop
  | .encrypt .complete => True
  | .encrypt (.failed left) =>
      files name = none ∨
        ∃ cipher, left = some cipher ∧
          Decrypts openssl privatePem cipher content
  | .decrypt .complete =>
      ∀ text, HoldsCipher openssl name privatePem files text →
        text = content
  | .decrypt (.failed left) =>
      ∀ text, HoldsCipher openssl name privatePem files text →
        left = some content

/-! ## What an output leaves -/

/-- What the path of an output holds after it. -/
def leaves (content : Bytes) : OutputFate → Option Bytes
  | .complete => some content
  | .failed left => left

/-- An output changes its path only. -/
theorem output_apply
    (files : FileSystem) (fate : OutputFate) (path content other : Bytes) :
    files.output fate path content other =
      if other = path then leaves content fate else files other := by
  cases fate <;>
    simp only [FileSystem.output, leaves, Function.update_apply]

section Runs

variable {openssl : OpenSSL RSA} {files start : FileSystem}
variable {name public_key_file private_key_file : Bytes}
variable {publicPem privatePem content text cipher : Bytes}

/-- The keys are in place, and apart from the two files. -/
structure Keys
    (name public_key_file private_key_file publicPem privatePem : Bytes)
    (files : FileSystem) : Prop where
  publicKey : files public_key_file = some publicPem
  privateKey : files private_key_file = some privatePem
  publicApart : public_key_file ≠ name
  publicApartEnc : public_key_file ≠ name ++ str ".enc"
  privateApart : private_key_file ≠ name
  privateApartEnc : private_key_file ≠ name ++ str ".enc"

/-- Between the calls: the content is in the file, or the file is gone and the
content is in the encrypted one. -/
structure OneCopy
    (openssl : OpenSSL RSA)
    (name public_key_file private_key_file : Bytes)
    (publicPem privatePem content : Bytes) (files : FileSystem) : Prop where
  keys : Keys name public_key_file private_key_file publicPem privatePem files
  copy : files name = some content ∨
    (files name = none ∧ HoldsCipher openssl name privatePem files content)

theorem OneCopy.survives
    (inv : OneCopy openssl name public_key_file private_key_file publicPem
      privatePem content files) :
    Survives openssl name privatePem content files :=
  inv.copy.imp_right And.right

/-- A call changes the two files only. -/
theorem Keys.of_same
    (keys : Keys name public_key_file private_key_file publicPem privatePem
      files)
    {files' : FileSystem}
    (same : ∀ other, other ≠ name → other ≠ name ++ str ".enc" →
      files' other = files other) :
    Keys name public_key_file private_key_file publicPem privatePem files' :=
  { keys with
    publicKey := by
      rw [same _ keys.publicApart keys.publicApartEnc, keys.publicKey]
    privateKey := by
      rw [same _ keys.privateApart keys.privateApartEnc, keys.privateKey] }

/-! ## Encrypting -/

/-- Encrypting without a file changes nothing. -/
theorem call_encrypt_of_absent
    (absent : files name = none) (fate : OutputFate) :
    call openssl name public_key_file private_key_file files
      (.encrypt fate) = some files := by
  simp only [call, encryptPasswordFile, absent]

/-- Encrypting the content leaves it where the output does. -/
theorem call_encrypt_of_content
    (pair : KeyPair openssl publicPem privatePem)
    (keys : Keys name public_key_file private_key_file publicPem privatePem
      files)
    (short : content.length + 11 ≤ modulusSize openssl publicPem)
    (isContent : files name = some content) (fate : OutputFate) :
    ∃ cipher files',
      call openssl name public_key_file private_key_file files
          (.encrypt fate) = some files' ∧
        Decrypts openssl privatePem cipher content ∧
        files' name = none ∧
        files' (name ++ str ".enc") = leaves cipher fate ∧
        Keys name public_key_file private_key_file publicPem privatePem
          files' := by
  rcases exists_cipher_of_short pair short with ⟨cipher, encrypts, decrypts⟩
  have called := encryptPasswordFile_of_encrypts isContent keys.publicKey
    encrypts fate
  have differ := ne_append_enc name
  refine ⟨cipher, _, called, decrypts, ?_, ?_, keys.of_same ?_⟩
  · simp
  · simp [output_apply, differ]
  · intro other notName notEnc
    simp [output_apply, notName, notEnc]

/-! ## Decrypting -/

/-- Decrypting what the key refuses changes nothing. -/
theorem call_decrypt_of_refused
    (keys : Keys name public_key_file private_key_file publicPem privatePem
      files)
    (refused : ∀ text, ¬ HoldsCipher openssl name privatePem files text)
    (fate : OutputFate) :
    call openssl name public_key_file private_key_file files
      (.decrypt fate) = some files := by
  simp only [call, decryptPasswordFile, passwordFileName_append,
    Option.bind_eq_bind, Option.bind_some, keys.privateKey]
  cases input : files (name ++ str ".enc") with
  | none => rfl
  | some cipher =>
      cases decrypts : openssl.rsaPrivateDecrypt (toInt cipher.length) cipher
          (openssl.readRSAPrivateKey privatePem) with
      | none => simp only [decrypts]
      | some text => exact absurd ⟨cipher, input, decrypts⟩ (refused text)

/-- Decrypting leaves a text where the output does. -/
theorem call_decrypt_of_holds
    (keys : Keys name public_key_file private_key_file publicPem privatePem
      files)
    (holds : HoldsCipher openssl name privatePem files text)
    (fate : OutputFate) :
    ∃ files',
      call openssl name public_key_file private_key_file files
          (.decrypt fate) = some files' ∧
        files' name = leaves text fate ∧
        files' (name ++ str ".enc") = none ∧
        Keys name public_key_file private_key_file publicPem privatePem
          files' := by
  rcases holds with ⟨cipher, isCipher, decrypts⟩
  have called := decryptPasswordFile_of_decrypts
    (passwordFileName_append name) isCipher keys.privateKey decrypts fate
  have differ := ne_append_enc name
  refine ⟨_, called, ?_, ?_, keys.of_same ?_⟩
  · simp [output_apply, differ.symm]
  · simp
  · intro other notName notEnc
    simp [output_apply, notName, notEnc]

/-! ## Steps -/

/-- A call returns, and keeps the content exactly when it is allowed. -/
def Exact
    (openssl : OpenSSL RSA)
    (name public_key_file private_key_file : Bytes)
    (publicPem privatePem content : Bytes)
    (files : FileSystem) (label : Label) : Prop :=
  ∃ files',
    call openssl name public_key_file private_key_file files label =
        some files' ∧
      (Survives openssl name privatePem content files' ↔
        Keeps openssl name privatePem content files label) ∧
      (Survives openssl name privatePem content files' →
        OneCopy openssl name public_key_file private_key_file publicPem
          privatePem content files')

theorem HoldsCipher.unique
    {other : Bytes}
    (left : HoldsCipher openssl name privatePem files text)
    (right : HoldsCipher openssl name privatePem files other) :
    text = other := by
  rcases left with ⟨cipher, isCipher, decrypts⟩
  rcases right with ⟨cipher', isCipher', decrypts'⟩
  rw [isCipher] at isCipher'
  cases isCipher'
  exact Option.some.inj (decrypts.symm.trans decrypts')

/-- Without a file, the content can only be in the encrypted one. -/
theorem survives_of_absent_iff (absent : files name = none) :
    Survives openssl name privatePem content files ↔
      HoldsCipher openssl name privatePem files content := by
  simp [Survives, absent]

/-- Without an encrypted file, the content can only be in the other. -/
theorem survives_of_absentEnc_iff
    (absent : files (name ++ str ".enc") = none) :
    Survives openssl name privatePem content files ↔
      files name = some content := by
  simp [Survives, HoldsCipher, absent]

/-- A call that changes nothing. -/
theorem exact_of_unchanged
    (inv : OneCopy openssl name public_key_file private_key_file publicPem
      privatePem content files)
    {label : Label}
    (called : call openssl name public_key_file private_key_file files label =
      some files)
    (keeps : Keeps openssl name privatePem content files label) :
    Exact openssl name public_key_file private_key_file publicPem privatePem
      content files label :=
  ⟨files, called, iff_of_true inv.survives keeps, fun _ => inv⟩

theorem encrypt_exact
    (pair : KeyPair openssl publicPem privatePem)
    (short : content.length + 11 ≤ modulusSize openssl publicPem)
    (inv : OneCopy openssl name public_key_file private_key_file publicPem
      privatePem content files)
    (fate : OutputFate) :
    Exact openssl name public_key_file private_key_file publicPem privatePem
      content files (.encrypt fate) := by
  rcases inv.copy with isContent | ⟨absent, -⟩
  · rcases call_encrypt_of_content pair inv.keys short isContent fate with
      ⟨cipher, files', called, decrypts, absent, output, keys⟩
    refine ⟨files', called, ?_, fun survives => ⟨keys, Or.inr ⟨absent, ?_⟩⟩⟩
    · rw [survives_of_absent_iff absent, HoldsCipher, output]
      cases fate with
      | complete => exact iff_of_true ⟨cipher, rfl, decrypts⟩ True.intro
      | failed left => simp [leaves, Keeps, isContent]
    · exact (survives_of_absent_iff absent).mp survives
  · apply exact_of_unchanged inv (call_encrypt_of_absent absent fate)
    cases fate with
    | complete => exact True.intro
    | failed left => exact Or.inl absent

theorem decrypt_exact
    (inv : OneCopy openssl name public_key_file private_key_file publicPem
      privatePem content files)
    (fate : OutputFate) :
    Exact openssl name public_key_file private_key_file publicPem privatePem
      content files (.decrypt fate) := by
  by_cases accepted : ∃ text, HoldsCipher openssl name privatePem files text
  · rcases accepted with ⟨text, holds⟩
    rcases call_decrypt_of_holds inv.keys holds fate with
      ⟨files', called, output, absentEnc, keys⟩
    refine ⟨files', called, ?_, fun survives => ⟨keys, Or.inl ?_⟩⟩
    · rw [survives_of_absentEnc_iff absentEnc, output]
      cases fate with
      | complete =>
          constructor
          · intro same other holdsOther
            rw [← holds.unique holdsOther]
            exact Option.some.inj same
          · intro keeps
            exact congrArg some (keeps text holds)
      | failed left =>
          exact ⟨fun same _ _ => same, fun keeps => keeps text holds⟩
    · exact (survives_of_absentEnc_iff absentEnc).mp survives
  · rw [not_exists] at accepted
    apply exact_of_unchanged inv
      (call_decrypt_of_refused inv.keys accepted fate)
    cases fate with
    | complete => exact fun text holds => absurd holds (accepted text)
    | failed left => exact fun text holds => absurd holds (accepted text)

theorem call_exact
    (pair : KeyPair openssl publicPem privatePem)
    (short : content.length + 11 ≤ modulusSize openssl publicPem)
    (inv : OneCopy openssl name public_key_file private_key_file publicPem
      privatePem content files)
    (label : Label) :
    Exact openssl name public_key_file private_key_file publicPem privatePem
      content files label := by
  cases label with
  | encrypt fate => exact encrypt_exact pair short inv fate
  | decrypt fate => exact decrypt_exact inv fate

/-- The step of the machine is what the call returns. -/
theorem calls_next
    {label : Label} {files' : FileSystem}
    (called : call openssl name public_key_file private_key_file files label =
      some files') :
    (calls openssl name public_key_file private_key_file start).next files
      label = files' := by
  simp only [calls, called, Option.getD_some]

/-! ## No call crashes -/

/-- With the keys in place, every call returns and leaves them there. -/
theorem call_returns
    (openssl : OpenSSL RSA)
    (keys : Keys name public_key_file private_key_file publicPem privatePem
      files)
    (label : Label) :
    ∃ files',
      call openssl name public_key_file private_key_file files label =
          some files' ∧
        Keys name public_key_file private_key_file publicPem privatePem
          files' := by
  cases label with
  | encrypt fate =>
      cases input : files name with
      | none => exact ⟨files, call_encrypt_of_absent input fate, keys⟩
      | some content =>
          cases encrypts : openssl.rsaPublicEncrypt (toInt content.length)
              content (openssl.readRSAPublicKey publicPem) with
          | none =>
              refine ⟨files, ?_, keys⟩
              simp only [call, encryptPasswordFile, input, keys.publicKey,
                Option.bind_eq_bind, Option.bind_some, encrypts]
          | some output =>
              refine ⟨_, encryptPasswordFile_of_encrypts input keys.publicKey
                encrypts fate, keys.of_same ?_⟩
              intro other notName notEnc
              simp [output_apply, notName, notEnc]
  | decrypt fate =>
      by_cases accepted :
          ∃ text, HoldsCipher openssl name privatePem files text
      · rcases accepted with ⟨text, holds⟩
        rcases call_decrypt_of_holds keys holds fate with
          ⟨files', called, -, -, keys'⟩
        exact ⟨files', called, keys'⟩
      · rw [not_exists] at accepted
        exact ⟨files, call_decrypt_of_refused keys accepted fate, keys⟩

/-- Every list of calls is a run. -/
theorem follows_of_keys
    (openssl : OpenSSL RSA) (start : FileSystem)
    (keys : Keys name public_key_file private_key_file publicPem privatePem
      files)
    (labels : List Label) :
    Follows (calls openssl name public_key_file private_key_file start)
      anyStep files labels := by
  induction labels generalizing files with
  | nil => exact True.intro
  | cons label labels ih =>
      rcases call_returns openssl keys label with ⟨files', called, keys'⟩
      refine ⟨?_, True.intro, ?_⟩
      · simp only [calls, called, Option.isSome_some]
      · rw [calls_next called]
        exact ih keys'

end Runs

/--
For every content that the key can encrypt and every list of calls, with any
fate of every output: one of the two files has the content after every call
exactly when all the calls keep it.
-/
theorem survives_iff_keeps
    (openssl : OpenSSL RSA) (files : FileSystem)
    (name public_key_file private_key_file : Bytes)
    (publicPem privatePem content : Bytes) (labels : List Label)
    (pair : KeyPair openssl publicPem privatePem)
    (keys : Keys name public_key_file private_key_file publicPem privatePem
      files)
    (isContent : files name = some content)
    (short : content.length + 11 ≤ modulusSize openssl publicPem) :
    Along (calls openssl name public_key_file private_key_file files)
        (Survives openssl name privatePem content) files labels ↔
      Follows (calls openssl name public_key_file private_key_file files)
        (Keeps openssl name privatePem content) files labels := by
  have start : OneCopy openssl name public_key_file private_key_file
      publicPem privatePem content files := ⟨keys, Or.inl isContent⟩
  refine along_iff_follows_of_invariant start (fun _ inv => inv.survives)
    ?_ ?_ (follows_of_keys openssl files keys labels)
  · intro state label inv _
    rcases call_exact pair short inv label with ⟨state', called, exact, -⟩
    rw [calls_next called]
    exact exact
  · intro state label inv _ keeps
    rcases call_exact pair short inv label with
      ⟨state', called, exact, next⟩
    rw [calls_next called]
    exact next (exact.mpr keeps)

/-- The keys of the password file's directory. -/
theorem passwordFiles_keys (content : Bytes) :
    Keys (str "pw.enc") (str "pub.pem") (str "priv.pem") (str "public")
      (str "private") (passwordFiles content) where
  publicKey := rfl
  privateKey := rfl
  publicApart := by decide
  publicApartEnc := by decide
  privateApart := by decide
  privateApartEnc := by decide

/-- A failure while decrypting, after a successful encryption. -/
theorem passwordFiles_survives_iff :
    Along (calls paddingOnly (str "pw.enc") (str "pub.pem") (str "priv.pem")
          (passwordFiles (str "secret")))
        (Survives paddingOnly (str "pw.enc") (str "private") (str "secret"))
        (passwordFiles (str "secret"))
        [.encrypt .complete, .decrypt (.failed (some (str "sec")))] ↔
      Follows (calls paddingOnly (str "pw.enc") (str "pub.pem")
          (str "priv.pem") (passwordFiles (str "secret")))
        (Keeps paddingOnly (str "pw.enc") (str "private") (str "secret"))
        (passwordFiles (str "secret"))
        [.encrypt .complete, .decrypt (.failed (some (str "sec")))] :=
  survives_iff_keeps paddingOnly (passwordFiles (str "secret"))
    (str "pw.enc") (str "pub.pem") (str "priv.pem") (str "public")
    (str "private") (str "secret") _ (paddingOnly_keyPair _ _)
    (passwordFiles_keys _) rfl (by decide)

/-- The encrypted file cannot be opened, and the password is gone. -/
theorem failedOutput_not_survives :
    KeyPair paddingOnly (str "public") (str "private") ∧
      passwordFiles (str "secret") (str "pw.enc") = some (str "secret") ∧
      ¬ Along (calls paddingOnly (str "pw.enc") (str "pub.pem")
          (str "priv.pem") (passwordFiles (str "secret")))
        (Survives paddingOnly (str "pw.enc") (str "private") (str "secret"))
        (passwordFiles (str "secret")) [.encrypt (.failed none)] := by
  have pair := paddingOnly_keyPair (str "public") (str "private")
  have isContent :
      passwordFiles (str "secret") (str "pw.enc") = some (str "secret") := rfl
  refine ⟨pair, isContent, fun along => ?_⟩
  have keys := passwordFiles_keys (str "secret")
  rcases call_encrypt_of_content pair keys (by decide) isContent
      (.failed none) with
    ⟨cipher, files', called, -, absent, output, -⟩
  have survives := along.last
  rw [follow, follow, calls_next called, survives_of_absent_iff absent,
    HoldsCipher, output] at survives
  rcases survives with ⟨_, impossible, _⟩
  cases impossible

end ServerUtils.Loader.FaultSchedule
