import FinanciaApp.Library.Runs
import FinanciaApp.Library.InFlight
import FinanciaApp.Source.ATCProfileFirebaseUpdater

/-!
# Runs of the profile updater

One user, the documents of the users table, and what the updater waits for. A write is
sent, committed to its document and then acknowledged, or it fails without having been
committed; images are uploaded and writes committed and answered in any order. A user
starts as it was fetched, with the photos of its document.

`Effect` says once what a step can do.
-/

set_option autoImplicit false

namespace FinanciaApp.Source

open Library

namespace ATCProfileFirebaseUpdater

/-- An image that is being uploaded. -/
structure Upload where
  isProfilePhoto : Bool
  deriving DecidableEq, Repr

structure System where
  user : ATCUser
  documents : String → Document
  uploads : List Upload
  sent : List Write
  committed : List Write
  completions : List CompletionCall

/-- An image that cannot be scaled or encoded is not uploaded. The reply to an upload
carries the download URL, the reply to a write its error. -/
inductive Event where
  | removePhoto (url : String)
  | uploadPhoto (encodable isProfilePhoto : Bool)
  | updateProfilePicture (url : Option String)
  | update (email firstName lastName username : String)
  | uploadReply (index : Nat) (url : Option String)
  | commit (index : Nat)
  | writeReply (index : Nat) (error : Option String)
  deriving DecidableEq, Repr

def System.initial (user : ATCUser) : System where
  user := user
  documents := fun _ field => if field = "photos" then user.photos.map stringArray else none
  uploads := []
  sent := []
  committed := []
  completions := []

/-- A write is sent, if there is one. -/
def System.send (s : System) (write : Option Write) : System :=
  { s with sent := s.sent ++ write.toList }

/-- A write is sent, or the completion is called with `false`. -/
def System.sendOrFail (s : System) (write : Option Write) : System :=
  match write with
  | some write => s.send (some write)
  | none => { s with completions := s.completions ++ [.success false] }

def System.commit (s : System) (write : Write) (rest : List Write) : System :=
  { s with
    documents := Function.update s.documents write.document
      (setData write.data (s.documents write.document))
    sent := rest
    committed := s.committed ++ [write] }

/-- The closure of a write has run. -/
def System.complete (s : System) (error : Option String) (write : Write) : System :=
  { s with
    user := (completion error s.user write.closure).1
    completions := s.completions ++ [(completion error s.user write.closure).2] }

def step (s : System) : Event → Option System
  | .removePhoto url => some (s.send (removePhoto url s.user))
  | .uploadPhoto encodable isProfilePhoto =>
    if encodable then
      some { s with uploads := s.uploads ++ [⟨isProfilePhoto⟩] }
    else
      some (s.sendOrFail (uploadImageCompletion none isProfilePhoto s.user))
  | .updateProfilePicture url => some (s.sendOrFail (updateProfilePicture url s.user))
  | .update email firstName lastName username =>
    some (s.send (update email firstName lastName username s.user))
  | .uploadReply index url =>
    match deliver s.uploads index with
    | some (upload, rest) =>
      some ({ s with uploads := rest }.sendOrFail
        (uploadImageCompletion url upload.isProfilePhoto s.user))
    | none => none
  | .commit index =>
    match deliver s.sent index with
    | some (write, rest) => some (s.commit write rest)
    | none => none
  | .writeReply index none =>
    match deliver s.committed index with
    | some (write, rest) => some ({ s with committed := rest }.complete none write)
    | none => none
  | .writeReply index (some message) =>
    match deliver s.sent index with
    | some (write, rest) => some ({ s with sent := rest }.complete (some message) write)
    | none => none

/-- Everything a step can do. -/
inductive Effect (s : System) : Event → System → Prop where
  | removePhoto (url : String) : Effect s (.removePhoto url) (s.send (removePhoto url s.user))
  | uploadPhoto (isProfilePhoto : Bool) :
      Effect s (.uploadPhoto true isProfilePhoto)
        { s with uploads := s.uploads ++ [⟨isProfilePhoto⟩] }
  | notEncodable (isProfilePhoto : Bool) :
      Effect s (.uploadPhoto false isProfilePhoto)
        { s with completions := s.completions ++ [.success false] }
  | updateProfilePicture (url : Option String) :
      Effect s (.updateProfilePicture url) (s.sendOrFail (updateProfilePicture url s.user))
  | update (email firstName lastName username : String) :
      Effect s (.update email firstName lastName username)
        (s.send (update email firstName lastName username s.user))
  | uploadReply (index : Nat) (url : Option String) (upload : Upload) (rest : List Upload)
      (answered : deliver s.uploads index = some (upload, rest)) :
      Effect s (.uploadReply index url)
        ({ s with uploads := rest }.sendOrFail
          (uploadImageCompletion url upload.isProfilePhoto s.user))
  | commit (index : Nat) (write : Write) (rest : List Write)
      (answered : deliver s.sent index = some (write, rest)) :
      Effect s (.commit index) (s.commit write rest)
  | acknowledged (index : Nat) (write : Write) (rest : List Write)
      (answered : deliver s.committed index = some (write, rest)) :
      Effect s (.writeReply index none) ({ s with committed := rest }.complete none write)
  | failed (index : Nat) (message : String) (write : Write) (rest : List Write)
      (answered : deliver s.sent index = some (write, rest)) :
      Effect s (.writeReply index (some message))
        ({ s with sent := rest }.complete (some message) write)

theorem step_effect {s t : System} {e : Event} (h : step s e = some t) : Effect s e t := by
  cases e with
  | removePhoto url =>
    cases h
    exact .removePhoto url
  | uploadPhoto encodable isProfilePhoto =>
    cases encodable with
    | true =>
      cases h
      exact .uploadPhoto isProfilePhoto
    | false =>
      cases h
      exact .notEncodable isProfilePhoto
  | updateProfilePicture url =>
    cases h
    exact .updateProfilePicture url
  | update email firstName lastName username =>
    cases h
    exact .update email firstName lastName username
  | uploadReply index url =>
    simp only [step] at h
    split at h
    · rename_i upload rest answered
      cases h
      exact .uploadReply index url upload rest answered
    · cases h
  | commit index =>
    simp only [step] at h
    split at h
    · rename_i write rest answered
      cases h
      exact .commit index write rest answered
    · cases h
  | writeReply index error =>
    cases error with
    | none =>
      simp only [step] at h
      split at h
      · rename_i write rest answered
        cases h
        exact .acknowledged index write rest answered
      · cases h
    | some message =>
      simp only [step] at h
      split at h
      · rename_i write rest answered
        cases h
        exact .failed index message write rest answered
      · cases h

end ATCProfileFirebaseUpdater

end FinanciaApp.Source
