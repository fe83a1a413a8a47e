import SidecarProxy.Catalog.Decode
import SidecarProxy.Catalog.Encode
import SidecarProxy.Proofs.Json.Rewriting
import SidecarProxy.Proofs.Json.Written

/-!
# Documents that are read as they were written

What is written for an endpoint, an interface, a module or a bootstrap is read as
what it was written for, and so is every rewriting of it.
-/

namespace SidecarProxy
namespace Catalog

open Json Json.Record Relation

section Shapes

/-- A member without an inner structure. -/
def plainShape (name : String) (default : Value) : MemberShape :=
  ⟨name, default, fun _ _ => False⟩

/-- A member that is a list of records. -/
def listShape (name : String) (record : List MemberShape) : MemberShape :=
  ⟨name, .array [], InItems (Change record)⟩

def endpointShape : List MemberShape :=
  [plainShape "path" .null, plainShape "pathPattern" .null, plainShape "methods" (.array []),
    plainShape "permissionsRequired" (.array []), plainShape "permissionsDesired" (.array []),
    plainShape "modulePermissions" (.array [])]

def interfaceShape : List MemberShape :=
  [plainShape "id" (.ofText ""), plainShape "interfaceType" (.ofText "regular"),
    listShape "endpoints" endpointShape]

def moduleShape : List MemberShape :=
  [plainShape "moduleId" (.ofText ""), plainShape "location" .null,
    listShape "interfaces" interfaceShape]

def bootstrapShape : List MemberShape :=
  [⟨"module", Encode.moduleDescription {}, Change moduleShape⟩,
    listShape "requiredModules" moduleShape]

variable {α : Type} {read : Value → Option α} {default : α}

theorem readBy_plainShape
    {name : String} {v : Value}
    (h : read v = some default) :
    (plainShape name v).ReadBy read default :=
  ⟨h, fun hwithin => hwithin.elim⟩

theorem readBy_listShape
    {name : String} {record : List MemberShape}
    (h : ∀ {v v' a}, Change record v v' → read v = some a → read v' = some a) :
    (listShape name record).ReadBy (list read) [] :=
  ⟨rfl, fun hwithin hv => InItems.list h hwithin hv⟩

end Shapes

section Changes

variable {v v' : Value}

theorem endpoint_of_change
    {e : Endpoint}
    (h : Change endpointShape v v')
    (hv : Decode.endpoint v = some e) :
    Decode.endpoint v' = some e := by
  simp only [Decode.endpoint, Option.bind_eq_bind, Option.bind_eq_some_iff] at hv ⊢
  obtain ⟨ms, hms, path, hpath, pattern, hpattern, methods, hmethods, required, hrequired, desired,
    hdesired, granted, hgranted, he⟩ := hv
  obtain ⟨ms', hms', hsame⟩ := h.members (by decide) hms
  have htext (name : String) (hname : plainShape name .null ∈ endpointShape) {a : Option String}
      (ha : member ms name optionalText none = some a) :
      member ms' name optionalText none = some a :=
    hsame _ hname (readBy_plainShape rfl) ha
  have htexts (name : String) (hname : plainShape name (.array []) ∈ endpointShape)
      {a : List String} (ha : member ms name (list text) [] = some a) :
      member ms' name (list text) [] = some a :=
    hsame _ hname (readBy_plainShape rfl) ha
  exact ⟨ms', hms', path, htext _ (by simp [endpointShape]) hpath,
    pattern, htext _ (by simp [endpointShape]) hpattern,
    methods, htexts _ (by simp [endpointShape]) hmethods,
    required, htexts _ (by simp [endpointShape]) hrequired,
    desired, htexts _ (by simp [endpointShape]) hdesired,
    granted, htexts _ (by simp [endpointShape]) hgranted, he⟩

theorem interface_of_change
    {i : Interface}
    (h : Change interfaceShape v v')
    (hv : Decode.interface v = some i) :
    Decode.interface v' = some i := by
  simp only [Decode.interface, Option.bind_eq_bind, Option.bind_eq_some_iff] at hv ⊢
  obtain ⟨ms, hms, id, hid, kind, hkind, endpoints, hendpoints, hi⟩ := hv
  obtain ⟨ms', hms', hsame⟩ := h.members (by decide) hms
  exact ⟨ms', hms',
    id, hsame (plainShape "id" (.ofText "")) (by simp [interfaceShape])
      (readBy_plainShape rfl) hid,
    kind, hsame (plainShape "interfaceType" (.ofText "regular")) (by simp [interfaceShape])
      (readBy_plainShape rfl) hkind,
    endpoints, hsame (listShape "endpoints" endpointShape) (by simp [interfaceShape])
      (readBy_listShape endpoint_of_change) hendpoints, hi⟩

theorem moduleDescription_of_change
    {d : ModuleDescription}
    (h : Change moduleShape v v')
    (hv : Decode.moduleDescription v = some d) :
    Decode.moduleDescription v' = some d := by
  simp only [Decode.moduleDescription, Option.bind_eq_bind, Option.bind_eq_some_iff] at hv ⊢
  obtain ⟨ms, hms, id, hid, location, hlocation, interfaces, hinterfaces, hd⟩ := hv
  obtain ⟨ms', hms', hsame⟩ := h.members (by decide) hms
  exact ⟨ms', hms',
    id, hsame (plainShape "moduleId" (.ofText "")) (by simp [moduleShape])
      (readBy_plainShape rfl) hid,
    location, hsame (plainShape "location" .null) (by simp [moduleShape])
      (readBy_plainShape rfl) hlocation,
    interfaces, hsame (listShape "interfaces" interfaceShape) (by simp [moduleShape])
      (readBy_listShape interface_of_change) hinterfaces, hd⟩

theorem bootstrap_of_change
    {b : Bootstrap}
    (h : Change bootstrapShape v v')
    (hv : Decode.bootstrap v = some b) :
    Decode.bootstrap v' = some b := by
  simp only [Decode.bootstrap, Option.bind_eq_bind, Option.bind_eq_some_iff] at hv ⊢
  obtain ⟨ms, hms, d, hd, modules, hmodules, hb⟩ := hv
  obtain ⟨ms', hms', hsame⟩ := h.members (by decide) hms
  exact ⟨ms', hms',
    d, hsame ⟨"module", Encode.moduleDescription {}, Change moduleShape⟩ (by simp [bootstrapShape])
      ⟨by decide, moduleDescription_of_change⟩ hd,
    modules, hsame (listShape "requiredModules" moduleShape) (by simp [bootstrapShape])
      (readBy_listShape moduleDescription_of_change) hmodules, hb⟩

end Changes

section Written

theorem valuesUnder_ofMembers
    {ms : List (String × Value)}
    (hnodup : (ms.map (·.1)).Nodup)
    (name : String) :
    valuesUnder (ms.map fun m => (some m.1, m.2)) name = (ms.lookup name).toList := by
  induction ms with
  | nil =>
      rfl
  | cons m ms ih =>
      obtain ⟨key, v⟩ := m
      obtain ⟨hkey, hrest⟩ := List.nodup_cons.1 hnodup
      rw [List.map_cons]
      by_cases hname : key = name
      · subst hname
        have hnone : ms.lookup key = none := by
          rw [List.lookup_eq_none_iff]
          rintro ⟨other, v'⟩ hm
          have hne : key ≠ other := fun h => hkey (h ▸ List.mem_map_of_mem (f := (·.1)) hm)
          simpa using hne
        rw [valuesUnder_cons_self, ih hrest, hnone, List.lookup_cons_self]
        rfl
      · have hne : (name == key) = false := beq_eq_false_iff_ne.2 (Ne.symm hname)
        rw [valuesUnder_cons_of_ne hname, ih hrest, List.lookup_cons, hne]

theorem members_ofMembers
    {names : List String}
    (hnodup : names.Nodup)
    {surplus : Surplus} {ms : List (String × Value)}
    (hnames : ms.map (·.1) = names) :
    members surplus names (.ofMembers ms) = some fun name => ms.lookup name := by
  subst hnames
  refine ofObject_eq_some_iff.2 ⟨⟨?_, fun name _ => ?_⟩, ?_⟩
  · intro m hm
    obtain ⟨m, -, rfl⟩ := List.mem_map.1 hm
    exact Option.some_ne_none _
  · rw [valuesUnder_ofMembers hnodup]
    exact Option.length_toList_le
  · funext name
    rw [valuesUnder_ofMembers hnodup, Option.head?_toList]

theorem list_array_map
    {α : Type} {read : Value → Option α} {write : α → Value}
    (h : ∀ a, read (write a) = some a)
    (as : List α) :
    list read (.array (as.map write)) = some as := by
  induction as with
  | nil =>
      rfl
  | cons a as ih =>
      simp only [list, List.map_cons, List.mapM_cons, h] at ih ⊢
      rw [ih]
      rfl

theorem kind_kind
    (k : InterfaceKind) :
    Decode.kind (Encode.kind k) = some k := by
  cases k <;> decide

theorem optionalText_ofText?
    (o : Option String) :
    optionalText (.ofText? o) = some o := by
  cases o <;> rfl

theorem text_ofText
    (s : String) :
    text (.ofText s) = some s :=
  rfl

theorem list_ofTexts
    (ss : List String) :
    list text (.ofTexts ss) = some ss :=
  list_array_map text_ofText ss

theorem member_of_lookup
    {α : Type} {ms : List (String × Value)} {name : String} {v : Value}
    {read : Value → Option α} {default a : α}
    (hread : read v = some a) (hv : ms.lookup name = some v) :
    member (fun name => ms.lookup name) name read default = some a := by
  simp only [member, hv, hread]

theorem endpoint_endpoint
    (e : Endpoint) :
    Decode.endpoint (Encode.endpoint e) = some e := by
  have hnodup : Decode.endpointNames.Nodup := by decide
  rw [Decode.endpoint, Encode.endpoint, members_ofMembers hnodup rfl]
  simp only [Option.bind_eq_bind, Option.bind_some]
  rw [member_of_lookup (optionalText_ofText? e.path) rfl,
    member_of_lookup (optionalText_ofText? e.pathPattern) rfl,
    member_of_lookup (list_ofTexts e.methods) rfl,
    member_of_lookup (list_ofTexts e.permissionsRequired) rfl,
    member_of_lookup (list_ofTexts e.permissionsDesired) rfl,
    member_of_lookup (list_ofTexts e.modulePermissions) rfl]
  rfl

theorem interface_interface
    (i : Interface) :
    Decode.interface (Encode.interface i) = some i := by
  have hnodup : Decode.interfaceNames.Nodup := by decide
  rw [Decode.interface, Encode.interface, members_ofMembers hnodup rfl]
  simp only [Option.bind_eq_bind, Option.bind_some]
  rw [member_of_lookup (text_ofText i.id) rfl, member_of_lookup (kind_kind i.kind) rfl,
    member_of_lookup (list_array_map endpoint_endpoint i.endpoints) rfl]
  rfl

theorem moduleDescription_moduleDescription
    (d : ModuleDescription) :
    Decode.moduleDescription (Encode.moduleDescription d) = some d := by
  have hnodup : Decode.moduleNames.Nodup := by decide
  rw [Decode.moduleDescription, Encode.moduleDescription, members_ofMembers hnodup rfl]
  simp only [Option.bind_eq_bind, Option.bind_some]
  rw [member_of_lookup (text_ofText d.moduleId) rfl,
    member_of_lookup (optionalText_ofText? d.location) rfl,
    member_of_lookup (list_array_map interface_interface d.interfaces) rfl]
  rfl

theorem bootstrap_bootstrap
    (b : Bootstrap) :
    Decode.bootstrap (Encode.bootstrap b) = some b := by
  have hnodup : Decode.bootstrapNames.Nodup := by decide
  rw [Decode.bootstrap, Encode.bootstrap, members_ofMembers hnodup rfl]
  simp only [Option.bind_eq_bind, Option.bind_some]
  rw [member_of_lookup (moduleDescription_moduleDescription b.module) rfl,
    member_of_lookup (list_array_map moduleDescription_moduleDescription b.requiredModules) rfl]
  rfl

end Written

section Texts

variable {ms : List (String × Value)}

theorem writable_ofText?
    (o : Option String) :
    (Value.ofText? o).Writable := by
  cases o with
  | none => exact .null
  | some s => exact .string _

theorem writable_array_map
    {α : Type} {encode : α → Value}
    (h : ∀ a, (encode a).Writable)
    (as : List α) :
    (Value.array (as.map encode)).Writable := by
  refine .array fun v hv => ?_
  obtain ⟨a, -, rfl⟩ := List.mem_map.1 hv
  exact h a

theorem writable_ofTexts
    (ss : List String) :
    (Value.ofTexts ss).Writable :=
  writable_array_map (fun s => .string (some s)) ss

theorem writable_ofMembers
    (h : ∀ m ∈ ms, m.2.Writable) :
    (Value.ofMembers ms).Writable := by
  refine .object fun x hx => ?_
  obtain ⟨m, hm, rfl⟩ := List.mem_map.1 hx
  exact h m hm

theorem writable_endpoint
    (e : Endpoint) :
    (Encode.endpoint e).Writable := by
  refine writable_ofMembers ?_
  simp [writable_ofText?, writable_ofTexts]

theorem writable_interface
    (i : Interface) :
    (Encode.interface i).Writable := by
  refine writable_ofMembers ?_
  simp only [List.forall_mem_cons, List.not_mem_nil, false_implies, implies_true, and_true]
  exact ⟨.string _, .string _, writable_array_map writable_endpoint _⟩

theorem writable_moduleDescription
    (d : ModuleDescription) :
    (Encode.moduleDescription d).Writable := by
  refine writable_ofMembers ?_
  simp only [List.forall_mem_cons, List.not_mem_nil, false_implies, implies_true, and_true]
  exact ⟨.string _, writable_ofText? _, writable_array_map writable_interface _⟩

theorem writable_bootstrap
    (b : Bootstrap) :
    (Encode.bootstrap b).Writable := by
  refine writable_ofMembers ?_
  simp only [List.forall_mem_cons, List.not_mem_nil, false_implies, implies_true, and_true]
  exact ⟨writable_moduleDescription _, writable_array_map writable_moduleDescription _⟩

end Texts

section Main

variable {α : Type} {encode : α → Value} {decode : Value → Option α} {record : List MemberShape}

/-- What is encoded is decoded again, as a value and as a text, and so are its rewritings. -/
structure RoundTrips (encode : α → Value) (decode : Value → Option α)
    (record : List MemberShape) : Prop where
  encoded : ∀ a, (Json.parse (Json.write (encode a))).bind decode = some a
  rewritten : ∀ a v, ReflTransGen (Change record) (encode a) v → decode v = some a
  /-- The members that were put in may hold whatever can be written. -/
  rewritten_text :
    ∀ a v, ReflTransGen (Change record) (encode a) v → v.Writable →
      (Json.parse (Json.write v)).bind decode = some a

/-- It is enough that each change keeps what is decoded. -/
theorem roundTrips_of_change
    (hencoded : ∀ a, decode (encode a) = some a)
    (hchange : ∀ {v v' a}, Change record v v' → decode v = some a → decode v' = some a)
    (hwritable : ∀ a, (encode a).Writable) :
    RoundTrips encode decode record := by
  have hrewritten : ∀ a v, ReflTransGen (Change record) (encode a) v → decode v = some a := by
    intro a v h
    induction h with
    | refl => exact hencoded a
    | tail _ hstep ih => exact hchange hstep ih
  have htext : ∀ a v, ReflTransGen (Change record) (encode a) v → v.Writable →
      (Json.parse (Json.write v)).bind decode = some a := by
    intro a v h hv
    rw [Json.parse_write hv, Option.bind_some, hrewritten a v h]
  exact ⟨fun a => htext a _ .refl (hwritable a), hrewritten, htext⟩

/-- The documents of every kind are read as they were written. -/
theorem documents_roundTrip :
    RoundTrips Encode.endpoint Decode.endpoint endpointShape ∧
      RoundTrips Encode.interface Decode.interface interfaceShape ∧
      RoundTrips Encode.moduleDescription Decode.moduleDescription moduleShape ∧
      RoundTrips Encode.bootstrap Decode.bootstrap bootstrapShape :=
  ⟨roundTrips_of_change endpoint_endpoint endpoint_of_change writable_endpoint,
    roundTrips_of_change interface_interface interface_of_change writable_interface,
    roundTrips_of_change moduleDescription_moduleDescription moduleDescription_of_change
      writable_moduleDescription,
    roundTrips_of_change bootstrap_bootstrap bootstrap_of_change writable_bootstrap⟩

-- Members may be missing, and others may be there.
example : Decode.endpoint (.object [(some "note", .null), (some "methods", .ofTexts ["GET"])]) =
    some { methods := ["GET"] } := by
  decide

end Main

end Catalog
end SidecarProxy
