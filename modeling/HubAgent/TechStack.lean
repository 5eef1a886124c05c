import HubAgent.Lib.Search
import HubAgent.Tech
import HubAgent.Kube
/-!
# The technology of a container (`tech.rs`, `container_technology` in `collector.rs`)

Three sources tell it: labels and annotations of the pod, the command line of the container where the agent may look at
it, and the image.  The first that knows the container tells all but the subtype, which a Spring marker on the command
line or the path of the image may still add (`technology_by_precedence`).
-/
namespace HubAgent
namespace Tech

open Collector (Casing)

/-! ## The image -/

/-- `str::contains`. -/
def containsText (needle : String) (text : List Char) : Bool := decide (needle.toList <:+: text)

def oracleDatabase (vendor : String) : Technology :=
  { vendor := some vendor, product := some "oracle-database", version := none, language := none
    source := "image", subtype := some "oracle_database" }

def detectApplicationStackFromImage (casing : Casing) (image : String) : Option Technology :=
  let lowerFull := (casing.toLowercase image).toList
  let repoLower := (casing.toLowercase (String.ofList (stripRegistry (splitTag image.toList).1))).toList
  let name := (RustStr.split '/' repoLower).getLast?.getD repoLower
  if "container-registry.oracle.com/database/".toList.isPrefixOf lowerFull then some (oracleDatabase "oracle")
  else if "gvenzl/oracle-".toList.isPrefixOf repoLower then some (oracleDatabase "gvenzl")
  else if repoLower = "oracle/database".toList ∨ "/oracle/database".toList.isSuffixOf repoLower then
    some (oracleDatabase "oracle")
  else if containsText "springboot" repoLower || containsText "spring-boot" repoLower then
    some { vendor := none, product := some "spring-boot", version := none, language := some "Java"
           source := "image", subtype := some "spring_boot" }
  else if "angular-".toList.isPrefixOf name || containsText "-ng-" name || "ng-".toList.isPrefixOf name then
    some { vendor := none, product := some "angular", version := none, language := none
           source := "image", subtype := some "angular" }
  else none

/-! ## The command line -/

structure ProcessRule where
  executable : String
  vendor : String
  product : String
  language : String
deriving DecidableEq

def processRules : List ProcessRule :=
  [⟨"java", "eclipse", "java", "Java"⟩, ⟨"node", "openjs", "nodejs", "JavaScript"⟩,
    ⟨"python", "python-software-foundation", "python", "Python"⟩,
    ⟨"python3", "python-software-foundation", "python", "Python"⟩, ⟨"ruby", "", "ruby", "Ruby"⟩,
    ⟨"php", "", "php", "PHP"⟩, ⟨"php-fpm", "", "php-fpm", "PHP"⟩, ⟨"nginx", "nginx", "nginx", "C"⟩,
    ⟨"httpd", "apache", "httpd", "C"⟩, ⟨"apache2", "apache", "httpd", "C"⟩, ⟨"haproxy", "haproxy", "haproxy", "C"⟩,
    ⟨"envoy", "envoy-proxy", "envoy", "C++"⟩, ⟨"traefik", "traefik", "traefik", "Go"⟩,
    ⟨"caddy", "caddy", "caddy", "Go"⟩, ⟨"redis-server", "redis-labs", "redis", "C"⟩,
    ⟨"postgres", "postgresql", "postgres", "C"⟩, ⟨"postmaster", "postgresql", "postgres", "C"⟩,
    ⟨"mysqld", "oracle", "mysql", "C++"⟩, ⟨"mysqld_safe", "oracle", "mysql", "C++"⟩,
    ⟨"mariadbd", "mariadb", "mariadb", "C++"⟩, ⟨"mongod", "mongodb", "mongodb", "C++"⟩,
    ⟨"rabbitmq-server", "vmware", "rabbitmq", "Erlang"⟩, ⟨"oracle", "oracle", "oracle-database", "C"⟩,
    ⟨"dbca", "oracle", "oracle-database", "C"⟩, ⟨"sqlplus", "oracle", "oracle-database", "C"⟩]

def isVersionLike (value : List Char) : Bool :=
  let v := RustStr.trimChars value
  !v.isEmpty && v.all (fun c => c.isAlphanum || c == '.' || c == '-' || c == '_') &&
    (v.head?.map Char.isDigit).getD false

/-- The version that a flag gives, if it looks like one. -/
def versionValue (value : List Char) : Option (List Char) :=
  let v := RustStr.trimChars value
  if !v.isEmpty && isVersionLike v then some v else none

/-- The loop over the pairs of neighbours. -/
def versionPair : List String → Option (List Char)
  | flag :: value :: rest =>
    if flag = "--version" ∨ flag = "-version" then (versionValue value.toList).or (versionPair (value :: rest))
    else versionPair (value :: rest)
  | _ => none

def extractProcessVersion (args : List String) : Option (List Char) :=
  (args.findSome? (fun arg =>
    ((RustStr.stripPrefix "--version=".toList arg.toList).bind versionValue).or
      ((RustStr.stripPrefix "-version=".toList arg.toList).bind versionValue))).or (versionPair args)

/-- The last segment of a path. -/
def baseName (entry : String) : String := String.ofList ((RustStr.split '/' entry.toList).getLast?.getD [])

def noneIfEmpty (text : String) : Option String := if text = "" then none else some text

def detectFromProcess (command args : List String) : Option Technology :=
  let executables := ((command ++ args).map baseName).filter (· ≠ "")
  (executables.findSome? (fun exe => processRules.find? (fun rule => exe == rule.executable))).map (fun rule =>
    { vendor := noneIfEmpty rule.vendor, product := some rule.product
      version := (extractProcessVersion args).map (fun v => String.ofList (normalizeVersion v))
      language := noneIfEmpty rule.language, source := "process"
      subtype := if rule.product = "postgres" then some "postgresql" else none })

def springBootJarMarkers : List String := ["spring", "springboot"]
def springBootFlagMarkers : List String := ["-dspring.profiles.active", "spring.profiles.active"]

/-- A marker anywhere on the command line. -/
def springMarked (casing : Casing) (command args : List String) : Bool :=
  (command ++ args).any (fun arg =>
    springBootJarMarkers.any (fun m => containsText m (casing.toLowercase arg).toList) ||
      springBootFlagMarkers.any (fun m => containsText m (casing.toLowercase arg).toList))

def refineSpringBoot (casing : Casing) (tech : Technology) (command args : List String) : Technology :=
  let isJava := tech.product == some "java" || command.any (fun entry => baseName entry == "java")
  if !isJava then tech
  else if springMarked casing command args then { tech with subtype := some "spring_boot" }
  else tech

/-! ## The labels -/

def matchesStackLabelKey (key : String) : Bool :=
  key == "app.kubernetes.io/component" || key == "app.kubernetes.io/runtime"

/-- What a stack label names, by its value in lower case. -/
def stackOfLabel (v : String) : Option Technology :=
  if v = "postgres" ∨ v = "postgresql" then
    some { vendor := some "postgresql", product := some "postgres", version := none, language := some "C"
           source := "labels", subtype := some "postgresql" }
  else if v = "angular" then
    some { vendor := none, product := some "angular", version := none, language := none
           source := "labels", subtype := some "angular" }
  else if v = "spring-boot" ∨ v = "spring_boot" ∨ v = "springboot" then
    some { vendor := none, product := some "spring-boot", version := none, language := some "Java"
           source := "labels", subtype := some "spring_boot" }
  else if v = "oracle" ∨ v = "oracle-database" ∨ v = "oracle_database" then
    some { vendor := some "oracle", product := some "oracle-database", version := none, language := none
           source := "labels", subtype := some "oracle_database" }
  else none

/-- What an annotation of a version names. -/
def stackOfAnnotation (entry : String × String) : Option Technology :=
  if entry.1 = "angular.io/version" then
    some { vendor := none, product := some "angular", version := some (RustStr.trim entry.2), language := none
           source := "labels", subtype := some "angular" }
  else if entry.1 = "app.spring.io/version" then
    some { vendor := none, product := some "spring-boot", version := some (RustStr.trim entry.2)
           language := some "Java", source := "labels", subtype := some "spring_boot" }
  else none

def annotationVersionForStack (subtype : Option String) (annotations : List (String × String)) : Option String :=
  subtype.bind (fun subtype => annotations.findSome? (fun a =>
    if subtype = "angular" ∧ a.1 = "angular.io/version" then some (RustStr.trim a.2)
    else if subtype = "spring_boot" ∧ a.1 = "app.spring.io/version" then some (RustStr.trim a.2)
    else none))

def detectFromLabels (casing : Casing) (labels annotations : List (String × String)) : Option Technology :=
  match labels.findSome? (fun l =>
    if matchesStackLabelKey l.1 then stackOfLabel (casing.toLowercase l.2) else none) with
  | none => annotations.findSome? stackOfAnnotation
  | some tech =>
    match tech.version with
    | some _ => some tech
    | none =>
      match annotationVersionForStack tech.subtype annotations with
      | some version => some { tech with version := some version }
      | none => some tech

/-! ## The container -/

/-- A container of a pod, with its command line. -/
structure PodContainer extends Container where
  imagePullPolicy : Option String := none
  command : Option (List String) := none
  args : Option (List String) := none

def refineWithApplicationStackImage (casing : Casing) (tech : Technology) (image : String) : Technology :=
  match tech.subtype with
  | some _ => tech
  | none =>
    match detectApplicationStackFromImage casing image with
    | some stack => { tech with subtype := stack.subtype }
    | none => tech

def containerTechnology (casing : Casing) (container : PodContainer) (podLabels podAnnotations : List (String × String))
    (techDetectProcess : Bool) : Technology :=
  let image := container.image.getD ""
  match detectFromLabels casing podLabels podAnnotations with
  | some stack => stack
  | none =>
    if !techDetectProcess then refineWithApplicationStackImage casing (detect casing image) image
    else
      let command := container.command.getD []
      let args := container.args.getD []
      let detected := (detectFromProcess command args).getD (detect casing image)
      refineWithApplicationStackImage casing (refineSpringBoot casing detected command args) image

/-! ## What a container is told to be -/

open Search (First)

/-- A stack that a label can name: how it is spelled there, the annotation of its version, and what is told of it. -/
structure Stack where
  spellings : List String
  versionKey : Option String
  vendor : Option String
  product : String
  language : Option String
  subtype : String
deriving DecidableEq

def knownStacks : List Stack :=
  [⟨["postgres", "postgresql"], none, some "postgresql", "postgres", some "C", "postgresql"⟩,
    ⟨["angular"], some "angular.io/version", none, "angular", none, "angular"⟩,
    ⟨["spring-boot", "spring_boot", "springboot"], some "app.spring.io/version", none, "spring-boot", some "Java",
      "spring_boot"⟩,
    ⟨["oracle", "oracle-database", "oracle_database"], none, some "oracle", "oracle-database", none,
      "oracle_database"⟩]

def Stack.told (stack : Stack) (version : Option String) : Technology where
  vendor := stack.vendor
  product := some stack.product
  version := version
  language := stack.language
  source := "labels"
  subtype := some stack.subtype

def NamesStack (casing : Casing) (label : String × String) (stack : Stack) : Prop :=
  (label.1 = "app.kubernetes.io/component" ∨ label.1 = "app.kubernetes.io/runtime") ∧ stack ∈ knownStacks ∧
    casing.toLowercase label.2 ∈ stack.spellings

/-- The annotation says which version of the stack it is. -/
def Stack.Versioned (stack : Stack) (a : String × String) (version : String) : Prop :=
  stack.versionKey = some a.1 ∧ RustStr.trim a.2 = version

def VersionsStack (a : String × String) (said : Stack × String) : Prop :=
  said.1 ∈ knownStacks ∧ said.1.Versioned a said.2

/-- The command line of a container, where the agent may look at it. -/
def PodContainer.commandLine (container : PodContainer) (techDetectProcess : Bool) : List String :=
  if techDetectProcess then container.command.getD [] ++ container.args.getD [] else []

def Executes (entry : String) (rule : ProcessRule) : Prop := rule ∈ processRules ∧ baseName entry = rule.executable

def VersionLike (v : List Char) : Prop :=
  (∃ c ∈ v.head?, c.isDigit = true) ∧ ∀ c ∈ v, c.isAlphanum = true ∨ c = '.' ∨ c = '-' ∨ c = '_'

/-- The argument is a flag with a version behind its `=`. -/
def JoinedFlag (arg : String) (v : List Char) : Prop :=
  ∃ rest, (arg.toList = "--version=".toList ++ rest ∨ arg.toList = "-version=".toList ++ rest) ∧
    RustStr.trimChars rest = v ∧ VersionLike v

/-- The first of two neighbours is a flag, and the second its version. -/
def PairedFlag (pair : String × String) (v : List Char) : Prop :=
  (pair.1 = "--version" ∨ pair.1 = "-version") ∧ RustStr.trimChars pair.2.toList = v ∧ VersionLike v

/-- The version that the arguments of a process give: the joined flags are looked at first. -/
def ProcessVersion (args : List String) (version : Option (List Char)) : Prop :=
  ∃ joined paired, First JoinedFlag args joined ∧ First PairedFlag (args.zip args.tail) paired ∧
    version = joined.or paired

def ProcessRule.told (rule : ProcessRule) (version : Option (List Char)) : Technology where
  vendor := noneIfEmpty rule.vendor
  product := some rule.product
  version := version.map (fun v => String.ofList (normalizeVersion v))
  language := noneIfEmpty rule.language
  source := "process"
  subtype := if rule.product = "postgres" then some "postgresql" else none

/-- A Java process with `spring` somewhere on its command line. -/
def SpringProcess (casing : Casing) (container : PodContainer) (base : Technology) : Prop :=
  (base.product = some "java" ∨ ∃ entry ∈ container.command.getD [], baseName entry = "java") ∧
    ∃ entry ∈ container.command.getD [] ++ container.args.getD [],
      "spring".toList <:+: (casing.toLowercase entry).toList

instance (casing : Casing) (container : PodContainer) (base : Technology) :
    Decidable (SpringProcess casing container base) :=
  inferInstanceAs (Decidable ((_ ∨ _) ∧ _))

/-- The path of an image in lower case, without its registry and its tag. -/
def imagePath (casing : Casing) (image : String) : List Char :=
  (casing.toLowercase (String.ofList (stripRegistry (splitTag image.toList).1))).toList

def OraclePath (casing : Casing) (image : String) : Prop :=
  "container-registry.oracle.com/database/".toList <+: (casing.toLowercase image).toList ∨
    "gvenzl/oracle-".toList <+: imagePath casing image ∨ imagePath casing image = "oracle/database".toList ∨
    "/oracle/database".toList <:+ imagePath casing image

def SpringPath (casing : Casing) (image : String) : Prop :=
  "springboot".toList <:+: imagePath casing image ∨ "spring-boot".toList <:+: imagePath casing image

/-- The last segment of the path has the mark of Angular. -/
def AngularPath (casing : Casing) (image : String) : Prop :=
  ∃ name ∈ (RustStr.split '/' (imagePath casing image)).getLast?,
    "angular-".toList <+: name ∨ "-ng-".toList <:+: name ∨ "ng-".toList <+: name

inductive PathSubtype (casing : Casing) (image : String) : Option String → Prop
  | oracle (path : OraclePath casing image) : PathSubtype casing image (some "oracle_database")
  | spring (other : ¬ OraclePath casing image) (path : SpringPath casing image) :
      PathSubtype casing image (some "spring_boot")
  | angular (other : ¬ OraclePath casing image ∧ ¬ SpringPath casing image) (path : AngularPath casing image) :
      PathSubtype casing image (some "angular")
  | unnamed (other : ¬ OraclePath casing image ∧ ¬ SpringPath casing image ∧ ¬ AngularPath casing image) :
      PathSubtype casing image none

/-- What is told refines what the command line or the image tells: a Spring process has its subtype, and what has none
has that of the path of the image. -/
structure Refines (casing : Casing) (container : PodContainer) (techDetectProcess : Bool) (base told : Technology) :
    Prop where
  kept : { told with subtype := none } = { base with subtype := none }
  subtype : ∃ named, PathSubtype casing (container.image.getD "") named ∧ told.subtype =
    if techDetectProcess = true ∧ SpringProcess casing container base then some "spring_boot"
    else base.subtype.or named

/-- **What is told of a container, by who decides it.** -/
inductive ByPrecedence (casing : Casing) (container : PodContainer) (labels annotations : List (String × String))
    (techDetectProcess : Bool) : Technology → Prop
  /-- The first label that names a stack, with the version that the first annotation of that stack says. -/
  | label {stack : Stack} {version : Option String} (named : First (NamesStack casing) labels (some stack))
      (versioned : First stack.Versioned annotations version) :
      ByPrecedence casing container labels annotations techDetectProcess (stack.told version)
  /-- Where no label names one, the first annotation of the version of a stack. -/
  | version {stack : Stack} {version : String} (unnamed : First (NamesStack casing) labels none)
      (versioned : First VersionsStack annotations (some (stack, version))) :
      ByPrecedence casing container labels annotations techDetectProcess (stack.told (some version))
  /-- Without either, the first executable of the table on the command line. -/
  | executable {rule : ProcessRule} {version : Option (List Char)} {told : Technology}
      (unnamed : First (NamesStack casing) labels none) (unversioned : First VersionsStack annotations none)
      (executes : First Executes (container.commandLine techDetectProcess) (some rule))
      (flagged : ProcessVersion (container.args.getD []) version)
      (refines : Refines casing container techDetectProcess (rule.told version) told) :
      ByPrecedence casing container labels annotations techDetectProcess told
  /-- Without any of these, the image. -/
  | image {told : Technology} (unnamed : First (NamesStack casing) labels none)
      (unversioned : First VersionsStack annotations none)
      (idle : First Executes (container.commandLine techDetectProcess) none)
      (refines : Refines casing container techDetectProcess (detect casing (container.image.getD "")) told) :
      ByPrecedence casing container labels annotations techDetectProcess told

/-! ### The labels -/

section Labels

variable {casing : Casing}

/-- The stack that a label names. -/
def namedStack (casing : Casing) (label : String × String) : Option Stack :=
  if matchesStackLabelKey label.1 then
    knownStacks.find? (fun stack => decide (casing.toLowercase label.2 ∈ stack.spellings))
  else none

def versionOf (stack : Stack) (a : String × String) : Option String :=
  if stack.versionKey = some a.1 then some (RustStr.trim a.2) else none

def versionedStack (a : String × String) : Option (Stack × String) :=
  (knownStacks.find? (fun stack => decide (stack.versionKey = some a.1))).map (fun stack =>
    (stack, RustStr.trim a.2))

theorem matchesStackLabelKey_iff (key : String) :
    matchesStackLabelKey key = true ↔ key = "app.kubernetes.io/component" ∨ key = "app.kubernetes.io/runtime" := by
  simp [matchesStackLabelKey]

theorem namedStack_eq_some_iff (label : String × String) (stack : Stack) :
    namedStack casing label = some stack ↔ NamesStack casing label stack := by
  have hone : ∀ a ∈ knownStacks, ∀ b ∈ knownStacks, ∀ v ∈ a.spellings, v ∈ b.spellings → a = b := by decide
  unfold namedStack NamesStack
  rw [Option.ite_none_right_eq_some, matchesStackLabelKey_iff, Search.find?_eq_some_iff, decide_eq_true_eq]
  intro a ha b hb hspelled hspelled'
  exact hone a ha b hb _ (of_decide_eq_true hspelled) (of_decide_eq_true hspelled')

theorem versionOf_eq_some_iff (stack : Stack) (a : String × String) (version : String) :
    versionOf stack a = some version ↔ stack.Versioned a version := by
  simp [versionOf, Stack.Versioned]

theorem versionedStack_eq_some_iff (a : String × String) (said : Stack × String) :
    versionedStack a = some said ↔ VersionsStack a said := by
  have hone : ∀ a ∈ knownStacks, ∀ b ∈ knownStacks, a.versionKey.isSome = true → a.versionKey = b.versionKey → a = b := by
    decide
  obtain ⟨stack, version⟩ := said
  unfold versionedStack VersionsStack Stack.Versioned
  simp only [Option.map_eq_some_iff, Prod.mk.injEq]
  have hfind := fun stack => Search.find?_eq_some_iff (l := knownStacks)
    (p := fun stack => decide (stack.versionKey = some a.1)) (by
      intro a ha b hb hkey hkey'
      have hkey := of_decide_eq_true hkey
      exact hone a ha b hb (by rw [hkey]; rfl) (hkey.trans (of_decide_eq_true hkey').symm)) stack
  simp only [hfind, decide_eq_true_eq]
  constructor
  · rintro ⟨found, ⟨hmem, hkey⟩, rfl, rfl⟩
    exact ⟨hmem, hkey, rfl⟩
  · rintro ⟨hmem, hkey, rfl⟩
    exact ⟨stack, ⟨hmem, hkey⟩, rfl, rfl⟩

theorem stackOfLabel_eq (v : String) :
    stackOfLabel v =
      (knownStacks.find? (fun stack => decide (v ∈ stack.spellings))).map (fun stack => stack.told none) := by
  simp only [stackOfLabel, knownStacks, List.find?_cons, List.find?_nil, List.mem_cons, List.not_mem_nil, or_false]
  repeat' split
  all_goals simp_all [Stack.told]

theorem stackOfAnnotation_eq (a : String × String) :
    stackOfAnnotation a = (versionedStack a).map (fun said => said.1.told (some said.2)) := by
  unfold stackOfAnnotation versionedStack
  simp only [knownStacks, List.find?_cons, List.find?_nil]
  repeat' split
  all_goals simp_all [Stack.told]

theorem annotationVersionForStack_eq {stack : Stack} (h : stack ∈ knownStacks) (annotations : List (String × String)) :
    annotationVersionForStack (some stack.subtype) annotations = annotations.findSome? (versionOf stack) := by
  unfold annotationVersionForStack
  rw [Option.bind_some]
  congr 1
  funext a
  simp only [knownStacks, List.mem_cons, List.not_mem_nil, or_false] at h
  rcases h with rfl | rfl | rfl | rfl <;> simp [versionOf, eq_comm]

theorem detectFromLabels_eq (labels annotations : List (String × String)) :
    detectFromLabels casing labels annotations =
      match labels.findSome? (namedStack casing) with
      | some stack => some (stack.told (annotations.findSome? (versionOf stack)))
      | none => (annotations.findSome? versionedStack).map (fun said => said.1.told (some said.2)) := by
  have hlabel : (fun l : String × String =>
      if matchesStackLabelKey l.1 then stackOfLabel (casing.toLowercase l.2) else none) =
        Option.map (fun stack : Stack => stack.told none) ∘ namedStack casing := by
    funext l
    rw [Function.comp_apply, namedStack, stackOfLabel_eq]
    split <;> rfl
  have hsaid : stackOfAnnotation =
      Option.map (fun said : Stack × String => said.1.told (some said.2)) ∘ versionedStack :=
    funext stackOfAnnotation_eq
  unfold detectFromLabels
  rw [hlabel, hsaid, ← List.map_findSome?, ← List.map_findSome?]
  cases hnamed : labels.findSome? (namedStack casing) with
  | none => rfl
  | some stack =>
    obtain ⟨l, -, hl⟩ := List.exists_of_findSome?_eq_some hnamed
    have hknown := ((namedStack_eq_some_iff l stack).1 hl).2.1
    have hversion := annotationVersionForStack_eq hknown annotations
    change (match annotationVersionForStack (some stack.subtype) annotations with
      | some version => some (stack.told (some version))
      | none => some (stack.told none)) = _
    rw [hversion]
    dsimp only
    cases annotations.findSome? (versionOf stack) <;> rfl

end Labels

/-! ### The command line -/

theorem versionLike_of_isVersionLike {v : List Char} (htrim : RustStr.trimChars v = v) :
    isVersionLike v = true ↔ VersionLike v := by
  unfold isVersionLike VersionLike
  rw [htrim]
  cases v with
  | nil => simp
  | cons c v => simp [and_comm, or_assoc]

theorem versionValue_eq_some_iff (value v : List Char) :
    versionValue value = some v ↔ RustStr.trimChars value = v ∧ VersionLike v := by
  have hlike := versionLike_of_isVersionLike (RustStr.trimChars_trimChars value)
  have hsome : VersionLike (RustStr.trimChars value) → (RustStr.trimChars value).isEmpty = false := by
    rintro ⟨⟨c, hc, -⟩, -⟩
    cases htrim : RustStr.trimChars value with
    | nil => rw [htrim] at hc; cases hc
    | cons d l => rfl
  unfold versionValue
  dsimp only
  rw [Option.ite_none_right_eq_some, Bool.and_eq_true, hlike]
  constructor
  · rintro ⟨⟨-, h⟩, hv⟩
    cases hv
    exact ⟨rfl, h⟩
  · rintro ⟨rfl, h⟩
    exact ⟨⟨by simp [hsome h], h⟩, rfl⟩

theorem stripPrefix_eq_some_iff (pre l rest : List Char) :
    RustStr.stripPrefix pre l = some rest ↔ l = pre ++ rest := by
  unfold RustStr.stripPrefix
  constructor
  · intro h
    split_ifs at h with hpre
    cases h
    exact (List.prefix_iff_eq_append.1 (List.isPrefixOf_iff_prefix.1 hpre)).symm
  · rintro rfl
    rw [if_pos (List.isPrefixOf_iff_prefix.2 (List.prefix_append _ _)), List.drop_left]

/-- The version behind the `=` of a joined flag. -/
def joinedVersion (arg : String) : Option (List Char) :=
  ((RustStr.stripPrefix "--version=".toList arg.toList).bind versionValue).or
    ((RustStr.stripPrefix "-version=".toList arg.toList).bind versionValue)

theorem flagged_iff (flag : List Char) (arg : String) (v : List Char) :
    (RustStr.stripPrefix flag arg.toList).bind versionValue = some v ↔
      ∃ rest, arg.toList = flag ++ rest ∧ RustStr.trimChars rest = v ∧ VersionLike v := by
  simp only [Option.bind_eq_some_iff, stripPrefix_eq_some_iff, versionValue_eq_some_iff]

theorem joinedVersion_eq_some_iff (arg : String) (v : List Char) :
    joinedVersion arg = some v ↔ JoinedFlag arg v := by
  unfold joinedVersion JoinedFlag
  rw [Option.or_eq_some_iff, flagged_iff, flagged_iff]
  constructor
  · rintro (⟨rest, hrest, hv⟩ | ⟨-, rest, hrest, hv⟩)
    · exact ⟨rest, .inl hrest, hv⟩
    · exact ⟨rest, .inr hrest, hv⟩
  · rintro ⟨rest, hrest | hrest, hv⟩
    · exact .inl ⟨rest, hrest, hv⟩
    · refine .inr ⟨?_, rest, hrest, hv⟩
      have hother : RustStr.stripPrefix "--version=".toList arg.toList = none := by
        rw [hrest]
        rfl
      rw [hother]
      rfl

def pairedVersion (pair : String × String) : Option (List Char) :=
  if pair.1 = "--version" ∨ pair.1 = "-version" then versionValue pair.2.toList else none

theorem pairedVersion_eq_some_iff (pair : String × String) (v : List Char) :
    pairedVersion pair = some v ↔ PairedFlag pair v := by
  rw [pairedVersion, Option.ite_none_right_eq_some, versionValue_eq_some_iff]
  rfl

theorem versionPair_eq : ∀ args : List String, versionPair args = (args.zip args.tail).findSome? pairedVersion
  | [] => rfl
  | [_] => rfl
  | flag :: value :: rest => by
    rw [versionPair, versionPair_eq (value :: rest), List.tail_cons, List.tail_cons, List.zip_cons_cons,
      List.findSome?_cons, pairedVersion]
    split_ifs
    · cases versionValue value.toList <;> rfl
    · rfl

theorem extractProcessVersion_gives (args : List String) : ProcessVersion args (extractProcessVersion args) := by
  refine ⟨_, _, Search.first_findSome? joinedVersion_eq_some_iff args,
    Search.first_findSome? pairedVersion_eq_some_iff (args.zip args.tail), ?_⟩
  unfold extractProcessVersion
  rw [versionPair_eq]
  rfl

/-- The row of the table for the executable that an entry names. -/
def ruleOf (entry : String) : Option ProcessRule := processRules.find? (fun rule => baseName entry == rule.executable)

theorem ruleOf_eq_some_iff (entry : String) (rule : ProcessRule) : ruleOf entry = some rule ↔ Executes entry rule := by
  have hone : ∀ a ∈ processRules, ∀ b ∈ processRules, a.executable = b.executable → a = b := by decide +kernel
  unfold ruleOf Executes
  rw [Search.find?_eq_some_iff, beq_iff_eq]
  intro a ha b hb hname hname'
  exact hone a ha b hb ((beq_iff_eq.1 hname).symm.trans (beq_iff_eq.1 hname'))

theorem detectFromProcess_eq (command args : List String) :
    detectFromProcess command args =
      ((command ++ args).findSome? ruleOf).map (fun rule => rule.told (extractProcessVersion args)) := by
  have hblank : ∀ exe : String, decide (exe ≠ "") = false →
      processRules.find? (fun rule => exe == rule.executable) = none := by
    intro exe hexe
    have hempty : exe = "" := by simpa using hexe
    rw [hempty]
    decide +kernel
  unfold detectFromProcess
  dsimp only
  rw [Search.findSome?_filter hblank, List.findSome?_map]
  rfl

/-! ### The image -/

theorem containsText_iff (needle : String) (text : List Char) :
    containsText needle text = true ↔ needle.toList <:+: text :=
  decide_eq_true_iff

theorem pathSubtype_of_image (casing : Casing) (image : String) :
    PathSubtype casing image ((detectApplicationStackFromImage casing image).bind (·.subtype)) := by
  have hname : (RustStr.split '/' (imagePath casing image)).getLast? =
      some ((RustStr.split '/' (imagePath casing image)).getLast?.getD (imagePath casing image)) := by
    cases hlast : (RustStr.split '/' (imagePath casing image)).getLast? with
    | some name => rfl
    | none => exact absurd (List.getLast?_eq_none_iff.1 hlast) (RustStr.split_ne_nil _ _)
  have horacle : OraclePath casing image ↔
      "container-registry.oracle.com/database/".toList.isPrefixOf (casing.toLowercase image).toList = true ∨
      "gvenzl/oracle-".toList.isPrefixOf (imagePath casing image) = true ∨
      (imagePath casing image = "oracle/database".toList ∨
        "/oracle/database".toList.isSuffixOf (imagePath casing image) = true) := by
    simp only [OraclePath, List.isPrefixOf_iff_prefix, List.isSuffixOf_iff_suffix]
  have hspring : SpringPath casing image ↔
      (containsText "springboot" (imagePath casing image) ||
        containsText "spring-boot" (imagePath casing image)) = true := by
    simp only [SpringPath, Bool.or_eq_true, containsText_iff]
  have hangular : AngularPath casing image ↔
      ("angular-".toList.isPrefixOf ((RustStr.split '/' (imagePath casing image)).getLast?.getD
          (imagePath casing image)) ||
        containsText "-ng-" ((RustStr.split '/' (imagePath casing image)).getLast?.getD (imagePath casing image)) ||
        "ng-".toList.isPrefixOf ((RustStr.split '/' (imagePath casing image)).getLast?.getD
          (imagePath casing image))) = true := by
    rw [AngularPath, hname]
    simp only [Option.mem_def, Option.some.injEq, exists_eq_left', Bool.or_eq_true, containsText_iff,
      List.isPrefixOf_iff_prefix, Option.getD_some, or_assoc]
  unfold detectApplicationStackFromImage
  dsimp only
  rw [← imagePath]
  split_ifs with h₁ h₂ h₃ h₄ h₅
  · exact .oracle (horacle.2 (.inl h₁))
  · exact .oracle (horacle.2 (.inr (.inl h₂)))
  · exact .oracle (horacle.2 (.inr (.inr h₃)))
  all_goals
    have hother : ¬ OraclePath casing image := fun h =>
      (horacle.1 h).elim h₁ (fun h => h.elim h₂ h₃)
  · exact .spring hother (hspring.2 h₄)
  · exact .angular ⟨hother, fun h => h₄ (hspring.1 h)⟩ (hangular.2 h₅)
  · exact .unnamed ⟨hother, fun h => h₄ (hspring.1 h), fun h => h₅ (hangular.1 h)⟩

/-! ### The container -/

section Container

variable {casing : Casing}

/-- Every marker has `spring` in it, which is one of them. -/
theorem springMarked_iff (command args : List String) :
    springMarked casing command args = true ↔
      ∃ entry ∈ command ++ args, "spring".toList <:+: (casing.toLowercase entry).toList := by
  have hinside : ∀ marker ∈ springBootJarMarkers ++ springBootFlagMarkers, "spring".toList <:+: marker.toList := by
    decide +kernel
  unfold springMarked
  rw [List.any_eq_true]
  refine exists_congr (fun entry => and_congr_right (fun _ => ⟨fun h => ?_, fun h => ?_⟩))
  · rw [← List.any_append, List.any_eq_true] at h
    obtain ⟨marker, hmarker, hcontains⟩ := h
    exact (hinside marker hmarker).trans ((containsText_iff _ _).1 hcontains)
  · rw [← List.any_append, List.any_eq_true]
    exact ⟨"spring", List.mem_cons_self, (containsText_iff _ _).2 h⟩

theorem refineSpringBoot_eq (container : PodContainer) (tech : Technology) :
    refineSpringBoot casing tech (container.command.getD []) (container.args.getD []) =
      if SpringProcess casing container tech then { tech with subtype := some "spring_boot" } else tech := by
  have hspring : SpringProcess casing container tech ↔
      (tech.product == some "java" || (container.command.getD []).any (fun entry => baseName entry == "java")) = true ∧
        springMarked casing (container.command.getD []) (container.args.getD []) = true := by
    rw [springMarked_iff]
    simp [SpringProcess]
  unfold refineSpringBoot
  by_cases h : SpringProcess casing container tech
  · obtain ⟨hjava, hmarked⟩ := hspring.1 h
    rw [if_pos h, hjava, hmarked]
    rfl
  · rw [if_neg h]
    dsimp only
    split
    · rfl
    · rename_i hjava
      rw [if_neg]
      intro hmarked
      exact h (hspring.2 ⟨by simpa only [Bool.not_eq_true', Bool.not_eq_false] using hjava, hmarked⟩)

theorem refineWithApplicationStackImage_eq (tech : Technology) (image : String) :
    refineWithApplicationStackImage casing tech image =
      { tech with subtype := tech.subtype.or ((detectApplicationStackFromImage casing image).bind (·.subtype)) } := by
  obtain ⟨vendor, product, version, language, source, subtype⟩ := tech
  unfold refineWithApplicationStackImage
  cases subtype with
  | some subtype => rfl
  | none => cases detectApplicationStackFromImage casing image <;> rfl

theorem refines_image (container : PodContainer) (base : Technology) :
    Refines casing container false base
      (refineWithApplicationStackImage casing base (container.image.getD "")) := by
  rw [refineWithApplicationStackImage_eq]
  exact ⟨rfl, _, pathSubtype_of_image casing _, by rw [if_neg (fun h => absurd h.1 (by decide))]⟩

theorem refines_process (container : PodContainer) (base : Technology) :
    Refines casing container true base
      (refineWithApplicationStackImage casing
        (refineSpringBoot casing base (container.command.getD []) (container.args.getD []))
        (container.image.getD "")) := by
  rw [refineSpringBoot_eq, refineWithApplicationStackImage_eq]
  by_cases hspring : SpringProcess casing container base
  · rw [if_pos hspring]
    exact ⟨rfl, _, pathSubtype_of_image casing _, by rw [if_pos ⟨rfl, hspring⟩]; rfl⟩
  · rw [if_neg hspring]
    exact ⟨rfl, _, pathSubtype_of_image casing _, by rw [if_neg (fun h => hspring h.2)]⟩

end Container

/-- **The technology of a container goes by the precedence of its sources.**  For every container of every pod, the
first label that names a stack decides alone, with the version that the first annotation of that stack says; where no
label does, the first annotation of a version; without either, the first executable of the table on the command line,
where the agent may look at it, with the version that the first flag of its arguments gives; and else the image.  Of
what these two tell, only the subtype is refined, by a Spring process and then by the path of the image. -/
theorem technology_by_precedence (casing : Casing) (container : PodContainer)
    (labels annotations : List (String × String)) (techDetectProcess : Bool) :
    ByPrecedence casing container labels annotations techDetectProcess
      (containerTechnology casing container labels annotations techDetectProcess) := by
  have hnamed := Search.first_findSome? (@namedStack_eq_some_iff casing) labels
  have hversioned := Search.first_findSome? versionedStack_eq_some_iff annotations
  have hlabels := @detectFromLabels_eq casing labels annotations
  unfold containerTechnology
  dsimp only
  rw [hlabels]
  cases hlabel : labels.findSome? (namedStack casing) with
  | some stack =>
    rw [hlabel] at hnamed
    exact .label hnamed (Search.first_findSome? (versionOf_eq_some_iff stack) annotations)
  | none =>
    rw [hlabel] at hnamed
    cases hsaid : annotations.findSome? versionedStack with
    | some said =>
      rw [hsaid] at hversioned
      exact .version hnamed hversioned
    | none =>
      rw [hsaid] at hversioned
      have hexecutes := Search.first_findSome? ruleOf_eq_some_iff (container.commandLine techDetectProcess)
      cases techDetectProcess with
      | false => exact .image hnamed hversioned hexecutes (refines_image container _)
      | true =>
        have hline : container.commandLine true = container.command.getD [] ++ container.args.getD [] := rfl
        rw [hline] at hexecutes
        dsimp only [Option.map_none, Bool.not_true]
        rw [if_neg (by decide), detectFromProcess_eq]
        cases hexecutable : (container.command.getD [] ++ container.args.getD []).findSome? ruleOf with
        | none =>
          rw [hexecutable, ← hline] at hexecutes
          exact .image hnamed hversioned hexecutes (refines_process container _)
        | some rule =>
          rw [hexecutable, ← hline] at hexecutes
          exact .executable hnamed hversioned hexecutes (extractProcessVersion_gives _) (refines_process container _)

end Tech
end HubAgent
