import LiveChat.Settings.Environment
import LiveChat.Toml.Reader

/-!
Settings from several places. The standard ones give way to those of a document, and these to
the variables of the environment, value by value. Of the variables later ones cover earlier ones.
-/

set_option autoImplicit false

namespace LiveChat.Settings

mutual

/-- The upper value covers the lower one; of two objects the fields are laid over each other. -/
def overlay (lower : Json) : Json → Json
  | .object upper =>
      match lower with
      | .object fields => .object (overlayFields fields upper)
      | _ => .object upper
  | upper => upper

def overlayFields (lower : Json.Fields) : List (String × Json) → Json.Fields
  | [] => lower
  | (key, value) :: rest =>
      let held := (lower.get? key).map fun held => overlay held value
      overlayFields (lower.insert key (held.getD value)) rest

end

/-- The settings, or the place of the first value that does not fit; a document that cannot be
read has no place. -/
def load (document : Option String) (environment : List (String × String)) :
    Except Place Settings := do
  let written ← match document with
    | none => .ok (.object [])
    | some text =>
        match Toml.parse text with
        | some value => .ok value
        | none => .error []
  let values := environment.filterMap fun (name, value) => Environment.ofVariable? name value
  read .ignored (overlay (overlay standard.toJson written) (values.foldl overlay (.object [])))

end LiveChat.Settings
