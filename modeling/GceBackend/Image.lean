import GceBackend.Basic

/-! # Image resolution (`getImage`)

`getImage` maps a job's `StartAttributes` to a boot image. The `legacy` strategy tries the filters
`name eq ^travis-ci-L.+` for the job's (possibly remapped) language and then for
`DEFAULT_LANGUAGE`, stopping at the first that yields an image; `env` and `api` ask the image
selector for a name and look up the single filter `name eq ^n`. `imageByFilter` returns, among the
listed images, one whose name is greatest in `sort.Strings` order.

The reference (`candidateFilters`, `firstListing`, `Picks`) restates the rule in its own terms: the
listing of the first candidate that lists something, or the last candidate's error.
`getImage_picks` proves the code meets it for every catalogue, duplicated names included: the map
keeps the last image of a name, which is still an image of the listing.
-/

namespace GceBackend

/-- `Images.List(projectID).Filter(filter).Do()`: the listed images, or the call's error. -/
abbrev Catalogue := String → Except String (List Image)

/-- The comparison of `sort.Strings`: byte-wise lexicographic. -/
def goStringLE (a b : String) : Bool := decide (goBytes a ≤ goBytes b)

theorem goStringLE_trans (a b c : String) (hab : goStringLE a b) (hbc : goStringLE b c) :
    goStringLE a c := by
  simp only [goStringLE, decide_eq_true_eq] at *
  exact le_trans hab hbc

theorem goStringLE_total (a b : String) : (goStringLE a b || goStringLE b a) = true := by
  simpa [goStringLE] using le_total (goBytes a) (goBytes b)

theorem getLast?_mergeSort_greatest {names : List String} (h : names ≠ []) :
    ∃ m, (names.mergeSort goStringLE).getLast? = some m ∧ m ∈ names ∧
      ∀ n ∈ names, goBytes n ≤ goBytes m := by
  set sorted := names.mergeSort goStringLE
  have hperm : sorted.Perm names := List.mergeSort_perm names goStringLE
  have hne : sorted ≠ [] := by
    intro h0; rw [h0] at hperm; exact h hperm.nil_eq.symm
  have hsplit := List.dropLast_append_getLast hne
  have hpw : (sorted.dropLast ++ [sorted.getLast hne]).Pairwise (fun a b => goStringLE a b) := by
    rw [hsplit]; exact List.sorted_mergeSort goStringLE_trans goStringLE_total names
  refine ⟨sorted.getLast hne, List.getLast?_eq_getLast sorted hne,
    hperm.mem_iff.1 (List.getLast_mem hne), fun n hn => ?_⟩
  rw [← hperm.mem_iff, ← hsplit, List.mem_append, List.mem_singleton] at hn
  rcases hn with hn | rfl
  · simpa [goStringLE] using (List.pairwise_append.1 hpw).2.2 n hn _ (List.mem_singleton_self _)
  · exact le_rfl

/-- `imagesByName`: `image.Name ↦ image`, a later image of a name replacing an earlier one. -/
def imagesByName (items : List Image) : String → Option Image :=
  items.foldl (fun m image name => if name = image.name then some image else m name) fun _ => none

theorem foldl_imagesByName_of_eq_some {items : List Image} {m : String → Option Image}
    {name : String} {image : Image}
    (h : items.foldl (fun m image name => if name = image.name then some image else m name) m name
      = some image) :
    (image ∈ items ∧ image.name = name) ∨ m name = some image := by
  induction items generalizing m with
  | nil => exact .inr h
  | cons x xs ih =>
    rcases ih h with hmem | hm
    · exact .inl ⟨List.mem_cons_of_mem x hmem.1, hmem.2⟩
    · by_cases hx : name = x.name
      · simp only [hx, if_true, Option.some.injEq] at hm
        exact .inl ⟨hm ▸ List.mem_cons_self x xs, hm ▸ hx.symm⟩
      · simp only [hx, if_false] at hm
        exact .inr hm

theorem foldl_imagesByName_isSome {items : List Image} {m : String → Option Image} {name : String}
    (h : name ∈ items.map Image.name ∨ (m name).isSome) :
    (items.foldl (fun m image name => if name = image.name then some image else m name) m
      name).isSome := by
  induction items generalizing m with
  | nil => simpa using h
  | cons x xs ih =>
    refine ih ?_
    by_cases hx : name = x.name
    · simp [hx]
    · simpa [hx] using h

theorem imagesByName_eq_some {items : List Image} {name : String} {image : Image}
    (h : imagesByName items name = some image) : image ∈ items ∧ image.name = name :=
  (foldl_imagesByName_of_eq_some h).resolve_right (by simp)

theorem imagesByName_isSome {items : List Image} {name : String}
    (h : name ∈ items.map Image.name) : (imagesByName items name).isSome :=
  foldl_imagesByName_isSome (.inl h)

/-- `imageByFilter`: the image of the greatest name among those the filter lists. A Go index
`imageNames[len(imageNames)-1]` is the last element; it exists since the listing is not empty. -/
def imageByFilter (images : Catalogue) (filter : String) : Except GoError (Option Image) :=
  match images filter with
  | .error e => .error (.remote e)
  | .ok [] => .error (.errorf ("no image found with filter " ++ filter))
  | .ok items =>
    let imageNames := (items.map Image.name).mergeSort goStringLE
    .ok (imageNames.getLast?.bind (imagesByName items))

/-- `gceImageTravisCIPrefixFilter`, formatted with a language. -/
def gceImageTravisCIPrefixFilter (language : String) : String :=
  "name eq ^travis-ci-" ++ language ++ ".+"

/-- `imageForLanguage`. -/
def imageForLanguage (images : Catalogue) (language : String) : Except GoError (Option Image) :=
  imageByFilter images (gceImageTravisCIPrefixFilter language)

/-- The candidate loop of `legacyImageSelect`, left at the first candidate without error. -/
def legacyImageLoop (images : Catalogue) :
    Except GoError (Option Image) → List String → Except GoError (Option Image)
  | acc, [] => acc
  | _, language :: rest =>
    match imageForLanguage images language with
    | .ok image => .ok image
    | .error e => legacyImageLoop images (.error e) rest

section
variable (p : GceProvider) (toUpper : String → String) (images : Catalogue)
  (attrs : StartAttributes)

/-- The candidate languages of `legacyImageSelect`; `toUpper` is `strings.ToUpper`. -/
def candidateLangs : List String :=
  let mappedLang := "LANGUAGE_MAP_" ++ toUpper attrs.language
  (if p.cfg.isSet mappedLang then [p.cfg.get mappedLang] else [attrs.language]) ++
    [p.defaultLanguage]

/-- `legacyImageSelect`; `image, err` start as `nil, nil`. -/
def legacyImageSelect : Except GoError (Option Image) :=
  legacyImageLoop images (.ok none) (candidateLangs p toUpper attrs)

/-- The `image.Params` that `imageSelect` sends. -/
def imageParams : ImageParams :=
  ⟨"gce", attrs.language, attrs.osxImage, attrs.dist, attrs.group, attrs.os⟩

/-- `imageSelect` with the provider's selector `sel`. -/
def imageSelect (sel : ImageSelector) : Except GoError (Option Image) :=
  match sel (imageParams attrs) with
  | .error e => .error e
  | .ok imageName =>
    let imageName := if imageName = "default" then p.defaultImage else imageName
    imageByFilter images ("name eq ^" ++ imageName)

/-- `getImage`: `env` and `api` through the selector, any other type the legacy way. -/
def getImage : Except GoError (Option Image) :=
  if h : p.imageSelectorType = "env" ∨ p.imageSelectorType = "api" then
    imageSelect p images attrs (p.imageSelector.get (p.selector_set h))
  else legacyImageSelect p toUpper images attrs

/-! ### The reference -/

/-- The candidate filters of the resolution rule, in the order they are tried. -/
def candidateFilters : Except GoError (List String) :=
  if h : p.imageSelectorType = "env" ∨ p.imageSelectorType = "api" then
    match p.imageSelector.get (p.selector_set h)
        ⟨"gce", attrs.language, attrs.osxImage, attrs.dist, attrs.group, attrs.os⟩ with
    | .error e => .error e
    | .ok n => .ok ["name eq ^" ++ if n = "default" then p.defaultImage else n]
  else
    let key := "LANGUAGE_MAP_" ++ toUpper attrs.language
    let lang := if p.cfg.isSet key then p.cfg.get key else attrs.language
    .ok ["name eq ^travis-ci-" ++ lang ++ ".+", "name eq ^travis-ci-" ++ p.defaultLanguage ++ ".+"]

end

/-- A filter's listing if it is a non-empty success, else the error the lookup reports. -/
def listingOf (images : Catalogue) (filter : String) : Except GoError (List Image) :=
  match images filter with
  | .error e => .error (.remote e)
  | .ok [] => .error (.errorf ("no image found with filter " ++ filter))
  | .ok (x :: xs) => .ok (x :: xs)

/-- The first candidate's non-empty successful listing, or the last candidate's error. -/
def firstListing (images : Catalogue) : List String → Except GoError (List Image)
  | [] => .ok []
  | [f] => listingOf images f
  | f :: g :: rest =>
    match listingOf images f with
    | .ok l => .ok l
    | .error _ => firstListing images (g :: rest)

/-- `r` answers `ref`: its error, or an image of its listing with a byte-wise greatest name. -/
def Picks : Except GoError (List Image) → Except GoError (Option Image) → Prop
  | .error e, r => r = .error e
  | .ok l, r => ∃ image, r = .ok (some image) ∧ image ∈ l ∧
      ∀ x ∈ l, goBytes x.name ≤ goBytes image.name

theorem imageByFilter_picks (images : Catalogue) (filter : String) :
    Picks (listingOf images filter) (imageByFilter images filter) := by
  unfold listingOf imageByFilter
  match images filter with
  | .error _ => rfl
  | .ok [] => rfl
  | .ok (x :: xs) =>
    obtain ⟨m, hm, hmem, hmax⟩ := @getLast?_mergeSort_greatest ((x :: xs).map Image.name)
      (by simp)
    obtain ⟨image, himage⟩ := Option.isSome_iff_exists.1 (imagesByName_isSome hmem)
    obtain ⟨hin, hname⟩ := imagesByName_eq_some himage
    refine ⟨image, by simp only [hm, Option.some_bind, himage], hin, fun y hy => ?_⟩
    rw [hname]
    exact hmax _ (List.mem_map_of_mem _ hy)

theorem legacyImageLoop_picks (images : Catalogue) :
    ∀ (acc : Except GoError (Option Image)) (langs : List String), langs ≠ [] →
      Picks (firstListing images (langs.map gceImageTravisCIPrefixFilter))
        (legacyImageLoop images acc langs)
  | _, [], h => absurd rfl h
  | _, [l], _ => by
    have hp := imageByFilter_picks images (gceImageTravisCIPrefixFilter l)
    simp only [List.map, firstListing, legacyImageLoop, imageForLanguage]
    cases hy : imageByFilter images (gceImageTravisCIPrefixFilter l) <;> rw [hy] at hp <;> exact hp
  | _, l :: l' :: rest, _ => by
    have hp := imageByFilter_picks images (gceImageTravisCIPrefixFilter l)
    have ih := legacyImageLoop_picks images (.ok none) (l' :: rest) (List.cons_ne_nil _ _)
    simp only [List.map, firstListing, legacyImageLoop, imageForLanguage] at ih ⊢
    cases hx : listingOf images (gceImageTravisCIPrefixFilter l) <;> rw [hx] at hp <;>
      simp only [Picks] at hp
    · rw [hp]
      cases rest <;> exact ih
    · obtain ⟨image, hy, hmem⟩ := hp
      exact ⟨image, by rw [hy], hmem⟩

/-- Image resolution meets its reference for every selector type, configuration, start
attributes and catalogue: a selector error is returned as is; otherwise `getImage` answers an
image of the first candidate's non-empty listing whose name is byte-wise greatest there, or the
last candidate's error. -/
theorem getImage_picks (p : GceProvider) (toUpper : String → String) (images : Catalogue)
    (attrs : StartAttributes) :
    match candidateFilters p toUpper attrs with
    | .error e => getImage p toUpper images attrs = .error e
    | .ok filters => Picks (firstListing images filters) (getImage p toUpper images attrs) := by
  unfold candidateFilters getImage
  by_cases h : p.imageSelectorType = "env" ∨ p.imageSelectorType = "api"
  · simp only [h, dite_true, imageSelect, imageParams]
    cases p.imageSelector.get (p.selector_set h)
        ⟨"gce", attrs.language, attrs.osxImage, attrs.dist, attrs.group, attrs.os⟩ with
    | error e => rfl
    | ok n => exact imageByFilter_picks images _
  · simp only [h, dite_false, legacyImageSelect]
    have := legacyImageLoop_picks images (.ok none) (candidateLangs p toUpper attrs) (by
      simp [candidateLangs])
    by_cases hm : p.cfg.isSet ("LANGUAGE_MAP_" ++ toUpper attrs.language) <;>
      simpa [candidateLangs, hm, gceImageTravisCIPrefixFilter] using this

end GceBackend
