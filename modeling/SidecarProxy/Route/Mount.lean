import SidecarProxy.Text.Fields

/-!
# Where a module is mounted

A module may be mounted under its own name.  With `strip`, requests arrive with
the name in front and the module is served without it; with `proxy`, requests
arrive without the name and the module is served with it in front.
-/

namespace SidecarProxy
namespace Route

/-- How the name of the local module appears in paths. -/
inductive MountStrategy where
  /-- Paths are used as received. -/
  | none
  /-- The name is taken off before lookup and before forwarding. -/
  | strip
  /-- The name is put in front when forwarding. -/
  | proxy
  deriving DecidableEq, Repr, Inhabited

namespace MountStrategy

/-- The written name of a strategy. -/
def name : MountStrategy → String
  | .none => "none"
  | .strip => "strip"
  | .proxy => "proxy"

/-- The strategy of a written name. -/
def ofName? (s : String) : Option MountStrategy :=
  if s = "none" then some .none
  else if s = "strip" then some .strip
  else if s = "proxy" then some .proxy
  else Option.none

end MountStrategy

/-- The mount point of the local module. -/
structure Mount where
  strategy : MountStrategy
  /-- The path under which the module is mounted: a slash and its name. -/
  root : List Char
  deriving DecidableEq, Repr, Inhabited

namespace Mount

/-- Characters without slashes at either end. -/
def trimSlashes (cs : List Char) : List Char :=
  ((cs.dropWhile (· == '/')).reverse.dropWhile (· == '/')).reverse

/-- The mount point of a module name. -/
def ofName (moduleName : String) (strategy : MountStrategy) : Mount where
  strategy := strategy
  root := '/' :: trimSlashes moduleName.toList

/-- What follows the root in a path that lies at or below it. -/
def below? (m : Mount) (path : List Char) : Option (List Char) :=
  if m.root.isPrefixOf path then
    let rest := path.drop m.root.length
    if rest.isEmpty || rest.head? == some '/' then some rest else Option.none
  else Option.none

/-- A path with the root taken off, if it lies at or below the root. -/
def stripChars (m : Mount) (path : List Char) : List Char :=
  match m.below? path with
  | Option.none => path
  | some [] => ['/']
  | some rest => rest

/-- The path that is looked up. -/
def lookupChars (m : Mount) (path : List Char) : List Char :=
  match m.strategy with
  | .strip => m.stripChars path
  | .none | .proxy => path

/-- The path that is sent to the module. -/
def moduleChars (m : Mount) (path : List Char) : List Char :=
  match m.strategy with
  | .none => path
  | .strip => m.stripChars path
  | .proxy => if (m.below? path).isSome then path else m.root ++ path

/-- The path that is looked up in the ingress table. -/
def lookupPath (m : Mount) (path : String) : String :=
  String.ofList (m.lookupChars path.toList)

/-- The path that is sent to the module for an ingress request. -/
def modulePath (m : Mount) (path : String) : String :=
  String.ofList (m.moduleChars path.toList)

end Mount
end Route
end SidecarProxy
