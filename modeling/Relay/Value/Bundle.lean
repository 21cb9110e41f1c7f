import Relay.Value.Payload

/-!
# Bundles

Operations on bundles and what can go wrong when a typed value is written into one or read back. A
read at a category that the entry does not belong to is an error and never a conversion.
-/
namespace Relay

/-- What can go wrong between a bundle and a typed value. -/
inductive BundleError where
  | missing (key : String)
  /-- The entry belongs to another category. -/
  | typeMismatch (key expected found : String)
  | recordMismatch (expected found : String)
  /-- A value has no byte form, or bytes are not the form of a value; the type says why. -/
  | serialization (reason : String)
  /-- The arguments that travel with an envelope have another shape. -/
  | argumentMismatch (expected : String)
deriving DecidableEq, Repr

def BundleError.message : BundleError → String
  | missing key => "Missing bundle entry '" ++ key ++ "'"
  | typeMismatch key expected found =>
    "Entry '" ++ key ++ "': expected " ++ expected ++ ", found " ++ found
  | recordMismatch expected found => "Record mismatch: expected " ++ expected ++ ", found " ++ found
  | serialization reason => "Serialization failed: " ++ reason
  | argumentMismatch expected => "Envelope arguments are not " ++ expected

namespace Bundle

/-- The bundle without entries. -/
def empty : Bundle := ⟨[]⟩

def size (b : Bundle) : Nat := b.entries.length

/-- Whether there is no entry. -/
def isEmpty (b : Bundle) : Bool := b.entries.isEmpty

def find? (b : Bundle) (key : String) : Option Payload := Entries.find? key b.entries

def contains (b : Bundle) (key : String) : Bool := (b.find? key).isSome

/-- Puts a payload under a key, in the place of the one that was there. -/
def insert (b : Bundle) (key : String) (p : Payload) : Bundle := ⟨Entries.insert key p b.entries⟩

/-- Takes the entry under a key out. -/
def erase (b : Bundle) (key : String) : Bundle := ⟨Entries.erase key b.entries⟩

/-- Entries put one after the other into the empty bundle. -/
def ofList (entries : List (String × Payload)) : Bundle := ⟨Entries.ofList entries⟩

/-- The payload under a key, or the error that there is none. -/
def lookup (b : Bundle) (key : String) : Except BundleError Payload :=
  match b.find? key with
  | some p => .ok p
  | none => .error (.missing key)

end Bundle

end Relay
