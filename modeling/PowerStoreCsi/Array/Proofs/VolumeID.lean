import PowerStoreCsi.Array.VolumeID

set_option autoImplicit false

/-! # What `ParseVolumeID` decodes

On a handle whose part before the first `:` has at least three `/`-fields, `ParseVolumeID`
makes no call: it is `withRemote` of the first three fields (`parseVolumeID_of_fields`), and
`withRemote` reads the first two fields of the part after the first `:`
(`parseRemoteVolumeHandle_of_fields`). Everything about handles follows from these two
equations:

* a handle written as the controller writes it decodes to the fields it was written from, so
  writing it again gives it back byte for byte (`parseVolumeID_roundTrip`);
* the parser checks no more than that: extra fields, extra segments, empty fields and any
  protocol string are accepted (`parseVolumeID_reads_leading_fields`), so two handles can
  name one volume;
* a handle with only two fields before its `:`, or one field after it, makes Go's indexing
  panic (`parseVolumeID_panics_on_missing_field`).

A bare volume ID, with a capability that names no mount file system, is classified by two
lookups on the default array (`parseVolumeID_legacy`). The error of a double failure is the
second lookup's alone, so a NotFound file-system answer hides whatever the block lookup
failed with. -/

namespace PowerStoreCsi

/-! ## The non-legacy branch -/

/-- On a handle with at least three local fields, `ParseVolumeID` decodes the first three. -/
theorem parseVolumeID_of_fields {common : Common} {ipToArray : GoMap String String}
    {volumeHandle : String} {dflt : Option PowerStoreArray} {vc : Option VolumeCapability}
    {s0 : String} {segs : List String} {f0 f1 f2 : String} {more : List String}
    (hsplit : Go.split volumeHandle ':' = s0 :: segs)
    (hloc : Go.split s0 '/' = f0 :: f1 :: f2 :: more) :
    parseVolumeID common ipToArray volumeHandle dflt vc =
      withRemote (s0 :: segs) f0 (resolveArrayRef common ipToArray f1) f2 := by
  have hne : volumeHandle ≠ "" := by
    rintro rfl
    simp only [Go.split_empty, List.cons.injEq] at hsplit
    rw [← hsplit.1, Go.split_empty] at hloc
    simp at hloc
  simp [parseVolumeID, hne, hsplit, hloc, Prog.index]

theorem parseRemoteVolumeHandle_single (s0 : String) :
    parseRemoteVolumeHandle [s0] = .pure ("", "") := rfl

/-- The remote half of a metro handle is the first two fields after its `:`. -/
theorem parseRemoteVolumeHandle_of_fields {s0 s1 r0 r1 : String} {segs rest : List String}
    (h : Go.split s1 '/' = r0 :: r1 :: rest) :
    parseRemoteVolumeHandle (s0 :: s1 :: segs) = .pure (r0, r1) := by
  simp [parseRemoteVolumeHandle, Prog.index, h]

/-! ## Handles the controller writes -/

theorem split_localHandle {l g p : String} (hl : IsHandleField l) (hg : IsHandleField g)
    (hp : IsHandleField p) : Go.split (l ++ "/" ++ g ++ "/" ++ p) '/' = [l, g, p] := by
  have e : l ++ "/" ++ g ++ "/" ++ p =
      l ++ String.singleton '/' ++ (g ++ String.singleton '/' ++ p) := by
    simp only [String.append_assoc]
    rfl
  rw [e, Go.split_append_sep hl.1, Go.split_append_sep hg.1, Go.split_of_not_mem hp.1]

theorem colon_not_mem_localHandle {l g p : String} (hl : IsHandleField l)
    (hg : IsHandleField g) (hp : IsHandleField p) : ':' ∉ (l ++ "/" ++ g ++ "/" ++ p).data := by
  simp only [String.data_append, List.mem_append, not_or]
  exact ⟨⟨⟨⟨hl.2, by decide⟩, hg.2⟩, by decide⟩, hp.2⟩

/-- A handle written from fields without separators, with a `GlobalID` that is no IP, is read
    back by `ParseVolumeID`, with no call. -/
theorem parseVolumeID_localHandle (common : Common) (ipToArray : GoMap String String)
    (dflt : Option PowerStoreArray) (vc : Option VolumeCapability) {l g p : String}
    (hl : IsHandleField l) (hg : IsHandleField g) (hp : IsHandleField p)
    (hip : common.getIPListFromString g = []) :
    parseVolumeID common ipToArray (l ++ "/" ++ g ++ "/" ++ p) dflt vc =
      .pure (⟨l, g, p, "", ""⟩, none) := by
  rw [parseVolumeID_of_fields (Go.split_of_not_mem (colon_not_mem_localHandle hl hg hp))
    (split_localHandle hl hg hp)]
  simp only [resolveArrayRef, hip]
  rfl

/-- A handle written from fields without separators, and a `GlobalID` that is no IP, decodes
    without any call to exactly those fields; writing them again gives the handle back. -/
theorem parseVolumeID_roundTrip (common : Common) (ipToArray : GoMap String String)
    (dflt : Option PowerStoreArray) (vc : Option VolumeCapability) {l g p r ra : String}
    (hl : IsHandleField l) (hg : IsHandleField g) (hp : IsHandleField p)
    (hr : IsHandleField r) (hra : IsHandleField ra) (hip : common.getIPListFromString g = []) :
    parseVolumeID common ipToArray (l ++ "/" ++ g ++ "/" ++ p) dflt vc =
        .pure (⟨l, g, p, "", ""⟩, none) ∧
      parseVolumeID common ipToArray (l ++ "/" ++ g ++ "/" ++ p ++ ":" ++ r ++ "/" ++ ra) dflt vc =
        .pure (⟨l, g, p, r, ra⟩, none) ∧
      (⟨l, g, p, "", ""⟩ : VolumeHandle).localHandle = l ++ "/" ++ g ++ "/" ++ p ∧
      (⟨l, g, p, r, ra⟩ : VolumeHandle).metroHandle =
        l ++ "/" ++ g ++ "/" ++ p ++ ":" ++ r ++ "/" ++ ra := by
  have hres : resolveArrayRef common ipToArray g = g := by simp [resolveArrayRef, hip]
  have hloc := split_localHandle hl hg hp
  have hcolon := colon_not_mem_localHandle hl hg hp
  refine ⟨?_, ?_, rfl, rfl⟩
  · rw [parseVolumeID_of_fields (Go.split_of_not_mem hcolon) hloc, hres]
    rfl
  · have hsplit : Go.split (l ++ "/" ++ g ++ "/" ++ p ++ ":" ++ r ++ "/" ++ ra) ':' =
        [l ++ "/" ++ g ++ "/" ++ p, r ++ "/" ++ ra] := by
      have e : l ++ "/" ++ g ++ "/" ++ p ++ ":" ++ r ++ "/" ++ ra =
          (l ++ "/" ++ g ++ "/" ++ p) ++ String.singleton ':' ++ (r ++ "/" ++ ra) := by
        simp only [String.append_assoc]
        rfl
      rw [e]
      refine Go.split_pair hcolon ?_
      simp only [String.data_append, List.mem_append, not_or]
      exact ⟨⟨hr.2, by decide⟩, hra.2⟩
    have hrem : Go.split (r ++ "/" ++ ra) '/' = [r, ra] := Go.split_pair hr.1 hra.1
    rw [parseVolumeID_of_fields hsplit hloc, hres]
    simp [withRemote, parseRemoteVolumeHandle_of_fields hrem]

theorem parseVolumeID_roundTrip_sample :
    (IsHandleField "v1" ∧ IsHandleField "PS1" ∧ IsHandleField "scsi" ∧ IsHandleField "v2" ∧
      IsHandleField "PS2" ∧ ([] : List String) = []) ∧
    (parseVolumeID ⟨fun _ => [], ":8083", "/array-status", "AUTO"⟩ GoMap.empty
        ("v1" ++ "/" ++ "PS1" ++ "/" ++ "scsi") none none =
        .pure (⟨"v1", "PS1", "scsi", "", ""⟩, none) ∧
      parseVolumeID ⟨fun _ => [], ":8083", "/array-status", "AUTO"⟩ GoMap.empty
        ("v1" ++ "/" ++ "PS1" ++ "/" ++ "scsi" ++ ":" ++ "v2" ++ "/" ++ "PS2") none none =
        .pure (⟨"v1", "PS1", "scsi", "v2", "PS2"⟩, none) ∧
      (⟨"v1", "PS1", "scsi", "", ""⟩ : VolumeHandle).localHandle =
        "v1" ++ "/" ++ "PS1" ++ "/" ++ "scsi" ∧
      (⟨"v1", "PS1", "scsi", "v2", "PS2"⟩ : VolumeHandle).metroHandle =
        "v1" ++ "/" ++ "PS1" ++ "/" ++ "scsi" ++ ":" ++ "v2" ++ "/" ++ "PS2") :=
  ⟨by decide, parseVolumeID_roundTrip ⟨fun _ => [], ":8083", "/array-status", "AUTO"⟩
    GoMap.empty none none (by decide) (by decide) (by decide) (by decide) (by decide) rfl⟩

/-! ## What the parser accepts -/

/-- `ParseVolumeID` checks no grammar: on a handle with at least three fields before its first
    `:`, it makes no call and returns a nil error with the first three of them (the array
    reference resolved through the IP index) and the first two fields after the first `:`,
    ignoring every further field and segment. -/
theorem parseVolumeID_reads_leading_fields (common : Common) (ipToArray : GoMap String String)
    (dflt : Option PowerStoreArray) (vc : Option VolumeCapability) {volumeHandle s0 f0 f1 f2 : String}
    {segs more : List String} (hsplit : Go.split volumeHandle ':' = s0 :: segs)
    (hloc : Go.split s0 '/' = f0 :: f1 :: f2 :: more) :
    (segs = [] → parseVolumeID common ipToArray volumeHandle dflt vc =
      .pure (⟨f0, resolveArrayRef common ipToArray f1, f2, "", ""⟩, none)) ∧
    (∀ s1 rest r0 r1 remoteMore, segs = s1 :: rest → Go.split s1 '/' = r0 :: r1 :: remoteMore →
      parseVolumeID common ipToArray volumeHandle dflt vc =
        .pure (⟨f0, resolveArrayRef common ipToArray f1, f2, r0, r1⟩, none)) := by
  rw [parseVolumeID_of_fields hsplit hloc]
  refine ⟨?_, fun s1 rest r0 r1 remoteMore hsegs hrem => ?_⟩
  · rintro rfl
    rfl
  · subst hsegs
    simp [withRemote, parseRemoteVolumeHandle_of_fields hrem]

theorem parseVolumeID_reads_leading_fields_sample :
    (Go.split "v1/PS1/scsi/x" ':' = ["v1/PS1/scsi/x"] ∧
      Go.split "v1/PS1/scsi/x" '/' = ["v1", "PS1", "scsi", "x"]) ∧
    (([] : List String) = [] → parseVolumeID ⟨fun _ => [], ":8083", "/array-status", "AUTO"⟩
        GoMap.empty "v1/PS1/scsi/x" none none =
      .pure (⟨"v1", resolveArrayRef ⟨fun _ => [], ":8083", "/array-status", "AUTO"⟩ GoMap.empty
        "PS1", "scsi", "", ""⟩, none)) ∧
    (∀ s1 rest r0 r1 remoteMore, ([] : List String) = s1 :: rest →
      Go.split s1 '/' = r0 :: r1 :: remoteMore →
      parseVolumeID ⟨fun _ => [], ":8083", "/array-status", "AUTO"⟩ GoMap.empty
          "v1/PS1/scsi/x" none none =
        .pure (⟨"v1", resolveArrayRef ⟨fun _ => [], ":8083", "/array-status", "AUTO"⟩ GoMap.empty
          "PS1", "scsi", r0, r1⟩, none)) :=
  ⟨⟨by decide, by decide⟩, @parseVolumeID_reads_leading_fields _ _ none none
    "v1/PS1/scsi/x" "v1/PS1/scsi/x" "v1" "PS1" "scsi" [] ["x"] (by decide) (by decide)⟩

/-- A handle with a fourth field decodes to the same volume as the handle without it. -/
theorem parseVolumeID_accepts_extra_field :
    parseVolumeID ⟨fun _ => [], ":8083", "/array-status", "AUTO"⟩ GoMap.empty
        "v1/PS1/scsi/extra" none none = .pure (⟨"v1", "PS1", "scsi", "", ""⟩, none) ∧
      parseVolumeID ⟨fun _ => [], ":8083", "/array-status", "AUTO"⟩ GoMap.empty
        "v1/PS1/scsi" none none = .pure (⟨"v1", "PS1", "scsi", "", ""⟩, none) :=
  ⟨rfl, rfl⟩

/-! ## The legacy branch -/

/-- On a bare volume ID and a capability that names no mount file system, `ParseVolumeID` asks
    the default array for a block volume of that ID, then for a file system: the first lookup
    that succeeds names the protocol, and when both fail the error is that of the second. -/
theorem parseVolumeID_legacy (common : Common) (ipToArray : GoMap String String)
    {v : String} (hv : IsHandleField v) (hne : v ≠ "") (d : PowerStoreArray)
    {vc : Option VolumeCapability} (hvc : vc.bind VolumeCapability.mountFsType = none) :
    parseVolumeID common ipToArray v (some d) vc =
      .call (.getVolume d.globalID v) fun (_, err) => match err with
        | none => .pure (⟨v, d.globalID, "scsi", "", ""⟩, none)
        | some _ => .call (.getFS d.globalID v) fun (_, err) => match err with
          | none => .pure (⟨v, d.globalID, "nfs", "", ""⟩, none)
          | some err => .pure (⟨v, d.globalID, "", "", ""⟩, some (legacyLookupError err)) := by
  simp [parseVolumeID, hne, Go.split_of_not_mem hv.1, Go.split_of_not_mem hv.2, Prog.index,
    Prog.deref, hvc, withRemote, parseRemoteVolumeHandle_single, Prog.query]
  rfl

/-- With a nil default array, a bare volume ID makes `ParseVolumeID` panic at
    `defaultArray.GetGlobalID()`, before any call. -/
theorem parseVolumeID_bare_nil_default (common : Common) (ipToArray : GoMap String String)
    {v : String} (hv : IsHandleField v) (hne : v ≠ "") (vc : Option VolumeCapability) :
    parseVolumeID common ipToArray v none vc =
      .panic "runtime error: invalid memory address or nil pointer dereference" := by
  simp [parseVolumeID, hne, Go.split_of_not_mem hv.1, Go.split_of_not_mem hv.2, Prog.index,
    Prog.deref]

theorem legacyLookupError_notFound {e : APIError} (he : e.notFound = true) :
    legacyLookupError (.api e) = .api e := by
  simp [legacyLookupError, GoError.asAPIError, he]

/-- Whatever error the block lookup fails with, a NotFound answer of the file-system lookup is
    what `ParseVolumeID` returns: a block volume the array failed to read looks deleted. -/
theorem parseVolumeID_legacy_notFound_ignores_volume_error (common : Common)
    (ipToArray : GoMap String String) {v : String} (hv : IsHandleField v) (hne : v ≠ "")
    (d : PowerStoreArray) (vc : Option VolumeCapability)
    (hvc : vc.bind VolumeCapability.mountFsType = none) (vol : Volume) (e1 : GoError)
    (fs : FileSystem) (e2 : APIError) (he2 : e2.notFound = true) :
    (parseVolumeID common ipToArray v (some d) vc).Reaches
      [⟨.getVolume d.globalID v, (vol, some e1)⟩, ⟨.getFS d.globalID v, (fs, some (.api e2))⟩]
      (.ok (⟨v, d.globalID, "", "", ""⟩, some (.api e2))) := by
  rw [parseVolumeID_legacy common ipToArray hv hne d hvc]
  exact .call _ (.call _ (by simp [legacyLookupError_notFound he2]))

/-- The block lookup of `vol1` on `PS1` fails with a reset connection; the file-system lookup
    answers NotFound. -/
theorem parseVolumeID_legacy_notFound_ignores_volume_error_reset :
    IsHandleField "vol1" ∧ "vol1" ≠ "" ∧
    (none : Option VolumeCapability).bind VolumeCapability.mountFsType = none ∧
    (⟨404, "not found"⟩ : APIError).notFound = true ∧
    (parseVolumeID ⟨fun _ => [], ":8083", "/array-status", "AUTO"⟩ GoMap.empty "vol1"
        (some { (default : PowerStoreArray) with globalID := "PS1" }) none).Reaches
      [⟨.getVolume "PS1" "vol1", (default, some (.plain "connection reset by peer"))⟩,
        ⟨.getFS "PS1" "vol1", (default, some (.api ⟨404, "not found"⟩))⟩]
      (.ok (⟨"vol1", "PS1", "", "", ""⟩, some (.api ⟨404, "not found"⟩))) :=
  ⟨by decide, by decide, rfl, rfl, parseVolumeID_legacy_notFound_ignores_volume_error _ _
    (by decide) (by decide) _ none rfl _ _ _ _ rfl⟩

/-! ## Handles that make the parser panic -/

/-- `ParseVolumeID` reads the third local field and the second remote field without checking
    they exist: a handle `f0/f1`, or a metro handle whose remote half is one field, panics. -/
theorem parseVolumeID_panics_on_missing_field (common : Common) (ipToArray : GoMap String String)
    (dflt : Option PowerStoreArray) (vc : Option VolumeCapability) {f0 f1 f2 r : String}
    (h0 : IsHandleField f0) (h1 : IsHandleField f1) (h2 : IsHandleField f2)
    (hr : IsHandleField r) :
    parseVolumeID common ipToArray (f0 ++ "/" ++ f1) dflt vc =
        .panic "runtime error: index out of range" ∧
      parseVolumeID common ipToArray (f0 ++ "/" ++ f1 ++ "/" ++ f2 ++ ":" ++ r) dflt vc =
        .panic "runtime error: index out of range" := by
  constructor
  · have hne : f0 ++ "/" ++ f1 ≠ "" := Go.append_sep_ne_empty
    have hcolon : ':' ∉ (f0 ++ "/" ++ f1).data := by
      simp only [String.data_append, List.mem_append, not_or]
      exact ⟨⟨h0.2, by decide⟩, h1.2⟩
    have hloc : Go.split (f0 ++ "/" ++ f1) '/' = [f0, f1] := Go.split_pair h0.1 h1.1
    simp [parseVolumeID, hne, Go.split_of_not_mem hcolon, hloc, Prog.index]
  · have hcolon := colon_not_mem_localHandle h0 h1 h2
    have hsplit : Go.split (f0 ++ "/" ++ f1 ++ "/" ++ f2 ++ ":" ++ r) ':' =
        [f0 ++ "/" ++ f1 ++ "/" ++ f2, r] := Go.split_pair hcolon hr.2
    rw [parseVolumeID_of_fields hsplit (split_localHandle h0 h1 h2)]
    simp [withRemote, parseRemoteVolumeHandle, Prog.index, Go.split_of_not_mem hr.1]

theorem parseVolumeID_panics_on_missing_field_sample :
    (IsHandleField "vol1" ∧ IsHandleField "PS1" ∧ IsHandleField "scsi" ∧ IsHandleField "vol2") ∧
    (parseVolumeID ⟨fun _ => [], ":8083", "/array-status", "AUTO"⟩ GoMap.empty
        ("vol1" ++ "/" ++ "PS1") none none = .panic "runtime error: index out of range" ∧
      parseVolumeID ⟨fun _ => [], ":8083", "/array-status", "AUTO"⟩ GoMap.empty
        ("vol1" ++ "/" ++ "PS1" ++ "/" ++ "scsi" ++ ":" ++ "vol2") none none =
        .panic "runtime error: index out of range") :=
  ⟨by decide, parseVolumeID_panics_on_missing_field _ _ none none
    (by decide) (by decide) (by decide) (by decide)⟩

end PowerStoreCsi
