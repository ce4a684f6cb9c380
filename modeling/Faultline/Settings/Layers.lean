import Faultline.Settings.Setting

/-!
Layers of settings. A table laid over a table is their union, in which the upper one wins where they
meet in anything but tables; a list is replaced whole.
-/

namespace Faultline.Layers

mutual
def overlay (lower : Setting) : (upper : Setting) → Setting
  | .table members => match lower with
    | .table known => .table (overlayMembers known members)
    | _ => .table members
  | upper => upper

def overlayMembers (known : List (String × Setting)) :
    (members : List (String × Setting)) → List (String × Setting)
  | [] => known
  | (name, value) :: rest =>
    overlayMembers
      (Setting.upsert name
        (match Setting.find? known name with
          | some below => overlay below value
          | none => value) known)
      rest
end

def merged (layers : List Setting) : Setting := layers.foldl overlay (.table [])

def insertByName (member : String × Setting) :
    List (String × Setting) → List (String × Setting)
  | [] => [member]
  | other :: rest =>
    if other.1 < member.1 then other :: insertByName member rest else member :: other :: rest

mutual
def sorted : Setting → Setting
  | .list items => .list (sortedItems items)
  | .table members => .table (sortedMembers members)
  | value => value

def sortedItems : List Setting → List Setting
  | [] => []
  | item :: rest => sorted item :: sortedItems rest

def sortedMembers : List (String × Setting) → List (String × Setting)
  | [] => []
  | (name, value) :: rest => insertByName (name, sorted value) (sortedMembers rest)
end

def at? : Setting → List String → Option Setting
  | value, [] => some value
  | .table members, name :: path => (Setting.find? members name).bind (at? · path)
  | _, _ :: _ => none

end Faultline.Layers
