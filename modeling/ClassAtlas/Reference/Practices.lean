import ClassAtlas.Index.Failure
import ClassAtlas.Json.Value

/-!
Guides to the engine's common concepts: what each is for, which terms find more about it, the
practices that keep it sound, the meaning of its specifiers, and short examples. A guide is
looked up by the concept's exact name.
-/

namespace ClassAtlas.Reference

open ClassAtlas.Index

structure Guide where
  concept : String
  description : String
  searchTerms : List String
  bestPractices : List String
  referenceNotes : List String
  examples : List String
  searchUrl : String
  deriving Repr, Inhabited

/-- The guide of a concept, if there is one. -/
def guideOf? : String → Option Guide
  | "UPROPERTY" => some
    { concept := "UPROPERTY"
      description := "Property declaration for Unreal reflection system"
      searchTerms := [
        "UPROPERTY specifier",
        "property reflection"]
      bestPractices := [
        "Use appropriate specifiers (EditAnywhere, BlueprintReadWrite)",
        "Consider replication needs (Replicated, ReplicatedUsing)",
        "Group related properties with categories",
        "Use Meta tags for validation and UI customization",
        "Use UPROPERTY() for any member that needs GC, serialization, or Blueprint access"]
      referenceNotes := [
        "EditAnywhere - editable in property windows",
        "BlueprintReadWrite - read/write from Blueprint",
        "BlueprintReadOnly - read-only from Blueprint",
        "VisibleAnywhere - visible but not editable",
        "Replicated - replicated over network",
        "ReplicatedUsing=FuncName - callback on replication",
        "Transient - not serialized",
        "Category=\"Name\" - organize in editor"]
      examples := [
        "UPROPERTY(EditAnywhere, BlueprintReadWrite, Category = \"Combat\")\nfloat Health = 100.0f;",
        "UPROPERTY(Replicated, Meta = (ClampMin = \"0.0\", ClampMax = \"1.0\"))\nfloat Speed;",
        "UPROPERTY(VisibleAnywhere, BlueprintReadOnly, Category = \"Components\")\nUStaticMeshComponent* MeshComponent;"]
      searchUrl := "https://dev.epicgames.com/community/search?q=UPROPERTY+specifier+unreal+engine" }
  | "UFUNCTION" => some
    { concept := "UFUNCTION"
      description := "Function declaration for Unreal reflection system"
      searchTerms := [
        "UFUNCTION specifier",
        "function reflection"]
      bestPractices := [
        "Use BlueprintCallable for functions that can be called from Blueprints",
        "Use BlueprintPure for functions without side effects (const, no exec pin)",
        "Use BlueprintNativeEvent for C++ functions overridable in Blueprint",
        "Use BlueprintImplementableEvent for Blueprint-only implementation",
        "Add Category and DisplayName for better Blueprint organization"]
      referenceNotes := [
        "BlueprintCallable - callable from Blueprint",
        "BlueprintPure - no side effects, no exec pin",
        "BlueprintNativeEvent - overridable in Blueprint with C++ default",
        "BlueprintImplementableEvent - implemented only in Blueprint",
        "Server/Client/NetMulticast - RPC specifiers",
        "Reliable/Unreliable - RPC reliability",
        "WithValidation - RPC validation function"]
      examples := [
        "UFUNCTION(BlueprintCallable, Category = \"Combat\")\nvoid TakeDamage(float DamageAmount);",
        "UFUNCTION(BlueprintPure, Category = \"Stats\")\nfloat GetHealthPercentage() const;",
        "UFUNCTION(BlueprintNativeEvent, Category = \"Events\")\nvoid OnDeath();",
        "UFUNCTION(Server, Reliable, WithValidation)\nvoid ServerFireWeapon();"]
      searchUrl := "https://dev.epicgames.com/community/search?q=UFUNCTION+specifier+unreal+engine" }
  | "Components" => some
    { concept := "Components"
      description := "Component setup and management in Unreal Engine"
      searchTerms := [
        "UActorComponent",
        "CreateDefaultSubobject"]
      bestPractices := [
        "Create components in constructor using CreateDefaultSubobject<T>()",
        "Set RootComponent first, then attach others with SetupAttachment()",
        "Use UPROPERTY() for components that need Blueprint access",
        "Consider component tick settings for performance",
        "Use VisibleAnywhere for components, not EditAnywhere"]
      referenceNotes := [
        "USceneComponent - base for transform hierarchy",
        "UStaticMeshComponent - static 3D meshes",
        "USkeletalMeshComponent - animated meshes",
        "UCapsuleComponent - collision capsule",
        "UBoxComponent - collision box",
        "USphereComponent - collision sphere",
        "UAudioComponent - 3D audio",
        "UPointLightComponent - point lights"]
      examples := [
        "// In constructor:\nMeshComponent = CreateDefaultSubobject<UStaticMeshComponent>(TEXT(\"Mesh\"));\nRootComponent = MeshComponent;",
        "CollisionComponent = CreateDefaultSubobject<UCapsuleComponent>(TEXT(\"Collision\"));\nCollisionComponent->SetupAttachment(RootComponent);"]
      searchUrl := "https://dev.epicgames.com/community/search?q=components+CreateDefaultSubobject+unreal+engine" }
  | "Events" => some
    { concept := "Events"
      description := "Event handling and delegation in Unreal Engine"
      searchTerms := [
        "delegates",
        "multicast delegate",
        "event dispatcher"]
      bestPractices := [
        "Bind events in BeginPlay, unbind in EndPlay to avoid dangling references",
        "Use AddDynamic/RemoveDynamic for dynamic delegates (Blueprint-compatible)",
        "Use AddUObject for C++-only delegates (slightly faster)",
        "Check IsValid() before broadcasting if delegate might be unbound",
        "Use BlueprintAssignable for events that should be bindable in Blueprint"]
      referenceNotes := [
        "DECLARE_DELEGATE - single binding, C++ only",
        "DECLARE_MULTICAST_DELEGATE - multiple bindings, C++ only",
        "DECLARE_DYNAMIC_DELEGATE - single binding, Blueprint compatible",
        "DECLARE_DYNAMIC_MULTICAST_DELEGATE - multiple bindings, Blueprint compatible (most common)"]
      examples := [
        "// Binding in BeginPlay:\nHealthComponent->OnHealthChanged.AddDynamic(this, &AMyActor::HandleHealthChanged);",
        "// Unbinding in EndPlay:\nHealthComponent->OnHealthChanged.RemoveDynamic(this, &AMyActor::HandleHealthChanged);",
        "// Broadcasting:\nOnHealthChanged.Broadcast(NewHealth);"]
      searchUrl := "https://dev.epicgames.com/community/search?q=delegates+events+unreal+engine" }
  | "Replication" => some
    { concept := "Replication"
      description := "Network replication in Unreal Engine"
      searchTerms := [
        "network replication",
        "replicated property",
        "RPC"]
      bestPractices := [
        "Mark properties with Replicated or ReplicatedUsing specifier",
        "Implement GetLifetimeReplicatedProps() for replicated properties",
        "Use DOREPLIFETIME or DOREPLIFETIME_CONDITION macros",
        "Consider replication conditions (COND_OwnerOnly, COND_SkipOwner, etc.)",
        "Use Reliable RPCs sparingly - prefer Unreliable for frequent calls",
        "Validate RPC parameters on server with WithValidation"]
      referenceNotes := [
        "COND_None - always replicate",
        "COND_InitialOnly - only on initial replication",
        "COND_OwnerOnly - only to owning connection",
        "COND_SkipOwner - to all except owner",
        "COND_SimulatedOnly - only to simulated proxies",
        "COND_AutonomousOnly - only to autonomous proxy"]
      examples := [
        "// Property declaration:\nUPROPERTY(ReplicatedUsing = OnRep_Health)\nfloat Health;",
        "// Server RPC:\nUFUNCTION(Server, Reliable, WithValidation)\nvoid ServerTakeDamage(float Damage);"]
      searchUrl := "https://dev.epicgames.com/community/search?q=network+replication+unreal+engine" }
  | "Blueprints" => some
    { concept := "Blueprints"
      description := "Blueprint integration and C++ exposure"
      searchTerms := [
        "Blueprint integration",
        "BlueprintType",
        "Blueprintable"]
      bestPractices := [
        "Use UCLASS(Blueprintable) for classes that can be subclassed in Blueprint",
        "Use UCLASS(BlueprintType) for classes usable as variable types",
        "Add DisplayName and Category meta tags for better organization",
        "Use BlueprintNativeEvent for virtual functions with C++ defaults",
        "Expose only what Blueprint needs - keep implementation details in C++"]
      referenceNotes := [
        "Blueprintable - can be subclassed by Blueprint",
        "BlueprintType - can be used as variable type",
        "NotBlueprintable - explicitly prevent Blueprint subclassing",
        "Abstract - cannot be instantiated directly",
        "MinimalAPI - minimal reflection, faster compile"]
      examples := [
        "// Blueprint implementable event:\nUFUNCTION(BlueprintImplementableEvent, Category = \"Events\")\nvoid OnPickedUp();"]
      searchUrl := "https://dev.epicgames.com/community/search?q=Blueprint+integration+C%2B%2B+unreal+engine" }
  | _ => none

/-- The guide of a concept; a concept without one is refused. -/
def guideFor (concept : String) : Except Failure Guide :=
  match guideOf? concept with
  | some g => .ok g
  | none => .error (.unknownConcept concept)

def Guide.toJson (g : Guide) : Json :=
  .obj [("concept", .str g.concept), ("description", .str g.description),
    ("search_terms", .strs g.searchTerms), ("best_practices", .strs g.bestPractices),
    ("reference_notes", .strs g.referenceNotes), ("examples", .strs g.examples),
    ("search_url", .str g.searchUrl)]

end ClassAtlas.Reference
