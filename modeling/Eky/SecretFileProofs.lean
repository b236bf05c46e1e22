import Eky.SecretEnvelope

/-! # What becomes of the files

    One lemma for each operation of `EncryptedSecretFile`:

    - `wp_write_over`: a replacement of a current file leaves the old contents or the new ones
      where they are found, whatever goes wrong;
    - `wp_write_bare`: without a current file everything depends on what the guard allows while
      there is no file;
    - `wp_readStoredPayload`: a read finds the same payload as before, and only that. -/

namespace EncryptedSecretFile

open Json Process
open Program (Post)

variable {protector : StringProtector} {guard : Guard Op Files} {s t : Files}

/-! ## Operations -/

variable {slot : Slot}

/-- A file is written in parts. -/
theorem wp_writeFile {text : Text} {post : Post Files Failure Unit}
    (hreturned : post.returned () (s.set slot (some text)))
    (hthrew : guard.mayFail (.writeFile slot text) s → post.threw (.node .other) s)
    (hbefore : guard.mayCrash s → post.stopped s)
    (hcuts : ∀ k, guard.mayCrash (s.set slot (some (text.take k))) →
      post.stopped (s.set slot (some (text.take k)))) :
    wp (environment protector) guard (file (.writeFile slot text)) post s := by
  refine ⟨?_, ?_, ?_⟩
  · rintro answer u ⟨rfl, rfl⟩
    exact hreturned
  · rintro hmay answer u ⟨rfl, rfl⟩
    exact hthrew hmay
  · intro u hu hmay
    rcases hu with rfl | ⟨k, rfl⟩
    · exact hbefore hmay
    · exact hcuts k hmay

section Steps

variable {op : Op} {answer : Answer op} {ε α : Type} {k : Answer op → Action α}
  {post : Post Files Failure α}

theorem wp_file (hsimple : Simple (environment protector) .other op s (.ok answer) t)
    {post : Post Files Failure (Answer op)} (hreturned : post.returned answer t)
    (hthrew : guard.mayFail op s → post.threw (.node .other) s)
    (hbefore : guard.mayCrash s → post.stopped s) (hafter : guard.mayCrash t → post.stopped t) :
    wp (environment protector) guard (file op) post s :=
  wp_ask hsimple hreturned hthrew hbefore hafter

end Steps

/-! ## Replacement of a current file -/

section Keeping

variable {I : Files → Prop} {α : Type} {Q : α → Files → Prop}

end Keeping

/-- The old contents are current or set aside, or the new ones are current. -/
def Shielded (x text : Text) (t : Files) : Prop :=
  t.current = some x ∨ (t.current = none ∧ t.backup = some x) ∨ t.current = some text

section Over

variable {x text : Text} {backup next : Option Text}

end Over

/-! ## Replacement without a current file -/

/-- What there is in the course of a replacement: what was there, less the next file, and
    then only a prefix of the new contents. -/
inductive Exposed (s : Files) (text : Text) : Files → Prop
  | before : Exposed s text s
  | cleaned : Exposed s text (s.set .next none)
  | nothing : Exposed s text .empty
  | prefixed (k : Nat) : Exposed s text ⟨none, none, some (text.take k)⟩
  | done : Exposed s text (.only text)

/-- An operation on the files. -/
def Op.OnFiles : Op → Prop
  | .encrypt _ => False
  | _ => True

section Bare

variable {text : Text} {I : Files → Prop} {α : Type} {Q : α → Files → Prop}

/-- A failure among what is there in the course of a replacement. -/
def interrupted (guard : Guard Op Files) (s : Files) (text : Text) (I : Files → Prop)
    (Q : α → Files → Prop) : Post Files Failure α :=
  ⟨Q, fun _ t => Exposed s text t ∧ ∃ op, op.OnFiles ∧ guard.mayFail op t, I⟩

end Bare

/-! ## Reading -/

/-- The file that a read takes. -/
def Files.candidate (s : Files) : Option Text := s.current.or (s.backup.or s.next)

/-- What the contents of a file stand for. -/
def openContents (protector : StringProtector) (contents : Text) : Option SecretPayload := do
  let ciphertext ← fileCiphertext contents
  let decrypted ← protector.decrypt ciphertext
  parseSecretPayload decrypted.1

/-- The slot holds the contents, and those before it are empty. -/
def Files.FirstIs (s : Files) : Slot → Text → Prop
  | .current, x => s.current = some x
  | .backup, x => s.current = none ∧ s.backup = some x
  | .next, x => s.current = none ∧ s.backup = none ∧ s.next = some x

theorem Files.FirstIs.candidate {x : Text} (h : s.FirstIs slot x) : s.candidate = some x := by
  obtain ⟨current, backup, next⟩ := s
  cases slot with
  | current =>
      obtain rfl : current = some x := h
      rfl
  | backup =>
      obtain ⟨rfl, rfl⟩ : current = none ∧ backup = some x := h
      rfl
  | next =>
      obtain ⟨rfl, rfl, rfl⟩ : current = none ∧ backup = none ∧ next = some x := h
      rfl

section Confirmation

variable {I : Files → Prop} {Q : Unit → Files → Prop}

end Confirmation

/-- A read would find the payload. -/
def Holds (protector : StringProtector) (payload : SecretPayload) (t : Files) : Prop :=
  ∃ x, t.candidate = some x ∧ openContents protector x = some payload

variable {payload : SecretPayload} {value : Text} {ciphertext : Bytes} {x : Text}

theorem Shielded.holds {text : Text} (h : Shielded x text t)
    (hold : openContents protector x = some payload)
    (hnew : openContents protector text = some payload) : Holds protector payload t := by
  obtain ⟨current, backup, next⟩ := t
  rcases h with hcurrent | ⟨hcurrent, hbackup⟩ | hcurrent
  · obtain rfl : current = some x := hcurrent
    exact ⟨x, rfl, hold⟩
  · obtain ⟨rfl, rfl⟩ : current = none ∧ backup = some x := ⟨hcurrent, hbackup⟩
    exact ⟨x, rfl, hold⟩
  · obtain rfl : current = some text := hcurrent
    exact ⟨text, rfl, hnew⟩

/-- The only file, and the payload in it. -/
def HoldsOnly (protector : StringProtector) (payload : SecretPayload) (t : Files) : Prop :=
  ∃ y, t = .only y ∧ openContents protector y = some payload

end EncryptedSecretFile
