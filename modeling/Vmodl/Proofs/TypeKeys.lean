import Vmodl.Client.Source
import Vmodl.Proofs.Decoding
import Vmodl.Proofs.Structures

/-!
# Keys of resolved types

A wire type is turned into a key, into the expression that describes it to the registry and into a type
of the source, each on its own. The three agree on the arrays around it and on what it is under them, and
a field is decoded under the key that a method with this result hands over.
-/

namespace Vmodl

open Wire

/-- The text ends in so many array markers, and no more. -/
def EndsInMarkers (s : String) (count : Nat) : Prop :=
  ∃ base, s.toList = base ++ (List.replicate count arrayMarker.toList).flatten ∧
    ¬arrayMarker.toList <:+ base

def FieldType.depth : FieldType → Nat
  | .array element => element.depth + 1
  | _ => 0

/-- The kind of declared type under the arrays. Scalars have none. -/
def FieldType.leafKind? : FieldType → Option TypeKind
  | .scalar _ => none
  | .enumeration _ => some .enumeration
  | .data _ => some .data
  | .managed _ => some .managed
  | .array element => element.leafKind?

def ResolvedType.leafKind? (t : ResolvedType) : Option TypeKind :=
  match t.leaf with
  | .declared kind _ _ => some kind
  | _ => none

namespace Source

inductive Ty.VecDepth : Ty → Nat → Prop
  | vec {t : Ty} {depth : Nat} (h : VecDepth t depth) : VecDepth (.apply "Vec" [t]) (depth + 1)
  | other {t : Ty} (h : ∀ element, t ≠ .apply "Vec" [element]) : VecDepth t 0

/-- The key under which a method has its reply read in the end, if it has. -/
def Function.replyKey? (f : Function) : Option String :=
  match f.body.getLast? with
  | some (.result (.method _ "reconstruct" [_, .literal key] _)) => some key
  | _ => none

end Source

/-- The field type that an expression gives: what the constructors of field types make of their
arguments. -/
inductive FieldType.Denotes (runtime : Source.Path) : Source.Expr → FieldType → Prop
  | scalar (key : String) : Denotes runtime (source.make runtime "scalar" (.literal key)) (.scalar key)
  | enumeration (key : String) :
      Denotes runtime (source.make runtime "enumeration" (.literal key)) (.enumeration key)
  | data (key : String) : Denotes runtime (source.make runtime "data" (.literal key)) (.data key)
  | managed (key : String) : Denotes runtime (source.make runtime "managed" (.literal key)) (.managed key)
  | array {e : Source.Expr} {element : FieldType} (h : Denotes runtime e element) :
      Denotes runtime (source.make runtime "array" e) (.array element)

/-- One field type stands for a wire type in all places. -/
structure Index.TypedAs (i : Index) (runtime : Source.Path) (wireType : String) (t : FieldType)
    (depth : Nat) : Prop where
  denotes : ∀ u, FieldType.Denotes runtime ((i.resolve wireType).fieldType.source runtime) u ↔ u = t
  key : t.key = (i.resolve wireType).key
  markers : EndsInMarkers wireType depth
  arrays : t.depth = depth
  vecs : ∀ boxed, (((i.resolve wireType).shape boxed).source runtime).VecDepth depth
  leaf : t.leafKind? = (i.resolve wireType).leafKind?
  reply : ∀ o : Operation, o.result = i.resolve wireType →
    (Client.Source.operation runtime o).replyKey? = if o.result.isVoid then none else some t.key
  decoded : ∀ (o : Operation) (key : String), o.result = i.resolve wireType →
    (Client.Source.operation runtime o).replyKey? = some key →
      ∀ (r : Registry) (kind : TypeKind) (owner field : String) (raw : Json),
        r.field? owner field = some t → isField kind field = true →
          decodeFields r kind owner [] [(field, raw)] = (decode r key raw).map fun d => [(field, d)]

theorem Source.Path.child_inj {p : Path} {a b : String} : p.child a = p.child b ↔ a = b := by
  cases p
  simp [child]

theorem Source.Path.child_ne_generic {p : Path} {a : String} {rooted : Bool} {head : String}
    {turbofish : Bool} {arguments : List Argument} :
    p.child a ≠ .mk rooted [.generic head turbofish arguments] := by
  obtain ⟨rooted', segments⟩ := p
  intro h
  have hsegments := (Path.mk.inj h).2
  have hlast := congrArg List.getLast? hsegments
  simp at hlast

theorem FieldType.make_inj {runtime : Source.Path} {a b : String} {e e' : Source.Expr} :
    source.make runtime a e = source.make runtime b e' ↔ a = b ∧ e = e' := by
  simp [source.make, Source.Path.child_inj]

theorem FieldType.denotes_source_iff {runtime : Source.Path} {t u : FieldType} :
    Denotes runtime (t.source runtime) u ↔ u = t := by
  constructor
  · intro h
    generalize he : t.source runtime = e at h
    induction h generalizing t with
    | array h ih =>
        cases t with
        | array element => rw [ih (make_inj.mp he).2]
        | _ => exact absurd (make_inj.mp he).1 (by decide)
    | _ =>
        cases t <;> simp_all [source, make_inj]
  · rintro rfl
    induction u with
    | array element ih => exact .array ih
    | scalar key => exact .scalar key
    | enumeration key => exact .enumeration key
    | data key => exact .data key
    | managed key => exact .managed key

namespace Source.Ty

variable {runtime : Path}

theorem vecDepth_child (ident : String) : (path (runtime.child ident)).VecDepth 0 := by
  apply VecDepth.other
  intro element h
  exact Path.child_ne_generic (Ty.path.inj h)

theorem vecDepth_ofIdent (ident : String) : (ofIdent ident).VecDepth 0 := by
  apply VecDepth.other
  intro element h
  cases h

end Source.Ty

theorem Primitive.vecDepth_source {runtime : Source.Path} (p : Primitive) :
    (p.source runtime).VecDepth 0 := by
  cases p with
  | void => exact .other nofun
  | any => exact .other nofun
  | dateTime => exact Source.Ty.vecDepth_child _
  | binary => exact Source.Ty.vecDepth_child _
  | _ => exact Source.Ty.vecDepth_ofIdent _

theorem TypeName.vecDepth_path {runtime : Source.Path} (name : TypeName) :
    (Source.Ty.path (name.path runtime)).VecDepth 0 := by
  obtain ⟨builtin, ident⟩ := name
  cases builtin with
  | true => exact Source.Ty.vecDepth_child ident
  | false => exact Source.Ty.vecDepth_ofIdent ident

/-- Boxes stand outside of lists only, so they hide none. -/
theorem ResolvedType.vecDepth_shape {runtime : Source.Path} (t : ResolvedType) (boxed : Bool) :
    ((t.shape boxed).source runtime).VecDepth t.fieldType.depth := by
  induction t generalizing boxed with
  | primitive p => exact p.vecDepth_source
  | unknown name => exact Primitive.any.vecDepth_source
  | array element ih => exact .vec (ih false)
  | declared kind wireName builtin =>
      have hdepth : (ResolvedType.declared kind wireName builtin).fieldType.depth = 0 := by
        cases kind <;> rfl
      rw [hdepth, shape]
      split
      · apply Source.Ty.VecDepth.other
        intro element h
        simp [Shape.source, Source.Ty.apply] at h
      · exact TypeName.vecDepth_path _

theorem ResolvedType.leafKind?_fieldType (t : ResolvedType) : t.fieldType.leafKind? = t.leafKind? := by
  induction t with
  | primitive p => rfl
  | declared kind wireName builtin => cases kind <;> rfl
  | array element ih => exact ih
  | unknown name => rfl

namespace Index

variable {i : Index}

theorem depth_resolveName (name : String) : (i.resolveName name).fieldType.depth = 0 := by
  unfold resolveName
  split
  · rfl
  · split
    · rename_i kind _ _
      cases kind <;> rfl
    · split <;> rfl
    · rfl

theorem markers_resolveReversed (cs : List Char) :
    ∃ base, cs.reverse =
        base ++ (List.replicate (i.resolveReversed cs).fieldType.depth arrayMarker.toList).flatten ∧
      ¬arrayMarker.toList <:+ base := by
  induction cs using resolveReversed.induct with
  | case1 rest ih =>
      obtain ⟨base, hrest, hbase⟩ := ih
      refine ⟨base, ?_, hbase⟩
      rw [resolveReversed, ResolvedType.fieldType, FieldType.depth, List.replicate_succ',
        List.flatten_append, ← List.append_assoc, ← hrest]
      simp [arrayMarker]
  | case2 cs hcs =>
      refine ⟨cs.reverse, ?_, ?_⟩
      · rw [resolveReversed.eq_2 i cs hcs, depth_resolveName]
        simp
      · rintro ⟨base, hbase⟩
        have hcons : cs = ']' :: '[' :: base.reverse := by
          rw [← List.reverse_reverse cs, ← hbase]
          simp [arrayMarker]
        exact hcs _ hcons

theorem endsInMarkers_resolve (wireType : String) :
    EndsInMarkers wireType (i.resolve wireType).fieldType.depth := by
  have hmarkers := markers_resolveReversed (i := i) wireType.toList.reverse
  rwa [List.reverse_reverse] at hmarkers

/-! ### Methods -/

theorem replyKey?_operation (runtime : Source.Path) (o : Operation) :
    (Client.Source.operation runtime o).replyKey? =
      if o.result.isVoid then none else some o.result.key := by
  cases hvoid : o.result.isVoid <;>
    simp [Source.Function.replyKey?, Client.Source.operation, Client.Source.ok, hvoid]

/-- A field is decoded under the key of its type. -/
theorem decodeFields_single {r : Registry} {kind : TypeKind} {owner field : String} {t : FieldType}
    (hfield : r.field? owner field = some t) (hisField : isField kind field = true) (raw : Json) :
    decodeFields r kind owner [] [(field, raw)] = (decode r t.key raw).map fun d => [(field, d)] := by
  have hmember : decodeMember r owner (field, raw) = decode r t.key raw := by
    simp only [decodeMember, hfield]
  rw [decodeFields_cons hisField, hmember]
  cases decode r t.key raw <;> rfl

/-- Whatever name the wire type has, and whatever the index makes of it, the registry, the methods and
the source take it for the same type. -/
theorem exists_typedAs (i : Index) (runtime : Source.Path) (wireType : String) :
    ∃ t depth, i.TypedAs runtime wireType t depth := by
  have hkey := (i.resolve wireType).key_fieldType
  refine ⟨(i.resolve wireType).fieldType, (i.resolve wireType).fieldType.depth, ?_⟩
  constructor
  case denotes => exact fun u => FieldType.denotes_source_iff
  case key => exact hkey
  case markers => exact endsInMarkers_resolve wireType
  case arrays => rfl
  case vecs => exact (i.resolve wireType).vecDepth_shape
  case leaf => exact (i.resolve wireType).leafKind?_fieldType
  case reply =>
    intro o ho
    rw [replyKey?_operation, ho, hkey]
  case decoded =>
    intro o key ho hreply r kind owner field raw hfield hisField
    have hkey' : key = (i.resolve wireType).fieldType.key := by
      rw [replyKey?_operation, ho, ← hkey] at hreply
      split at hreply
      · cases hreply
      · exact (Option.some.inj hreply).symm
    rw [hkey', decodeFields_single hfield hisField]

end Index

end Vmodl
