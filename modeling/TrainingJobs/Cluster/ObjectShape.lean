/-
Shapes of what the API server keeps about every object: its metadata, lists of objects, and selectors of labels.
-/
import TrainingJobs.Json.Shape

namespace TrainingJobs.ObjectShape

open Json.Shape

/-- who wrote which fields of an object -/
def managedFields : Json.Shape :=
  record (texts ["apiVersion", "fieldsType", "manager", "operation", "subresource"] ++ [("fieldsV1", any), ("time", time)])

def ownerReference : Json.Shape :=
  record (texts ["apiVersion", "kind", "name", "uid"] ++ [("blockOwnerDeletion", flag), ("controller", flag)])

def metadata : Json.Shape :=
  record (texts ["generateName", "name", "namespace", "resourceVersion", "selfLink", "uid"] ++
    [("annotations", dict text), ("creationTimestamp", time), ("deletionGracePeriodSeconds", int64),
     ("deletionTimestamp", time), ("finalizers", list text), ("generation", int64), ("labels", dict text),
     ("managedFields", list managedFields), ("ownerReferences", list ownerReference)])

def listMetadata : Json.Shape :=
  record (texts ["continue", "resourceVersion", "selfLink"] ++ [("remainingItemCount", int64)])

/-- one requirement of a selector -/
def requirement : Json.Shape := record (texts ["key", "operator"] ++ [("values", list text)])

def labelSelector : Json.Shape := record [("matchExpressions", list requirement), ("matchLabels", dict text)]

end TrainingJobs.ObjectShape
