/-
The shape of a pod template: its containers, volumes and rules of scheduling, as the API server writes them.
-/
import TrainingJobs.Cluster.ObjectShape

namespace TrainingJobs.PodTemplate

open Json.Shape ObjectShape

/-- a name in the namespace of the pod -/
def localReference : Json.Shape := record (texts ["name"])

/-! Containers -/

/-- an entry of a configuration or a secret -/
def keySelector : Json.Shape := record (texts ["key", "name"] ++ [("optional", flag)])

def fieldSelector : Json.Shape := record (texts ["apiVersion", "fieldPath"])

def resourceSelector : Json.Shape := record (texts ["containerName", "divisor", "resource"])

def envEntry : Json.Shape :=
  record (texts ["name", "value"] ++
    [("valueFrom", record [("configMapKeyRef", keySelector), ("fieldRef", fieldSelector),
      ("resourceFieldRef", resourceSelector), ("secretKeyRef", keySelector)])])

/-- a configuration or a secret that gives all its entries -/
def envSource : Json.Shape :=
  let source := record (texts ["name"] ++ [("optional", flag)])
  record [("configMapRef", source), ("prefix", text), ("secretRef", source)]

def command : Json.Shape := record [("command", list text)]

def httpRequest : Json.Shape :=
  record (texts ["host", "path", "scheme"] ++
    [("httpHeaders", list (record (texts ["name", "value"]))), ("port", int32OrText)])

def connection : Json.Shape := record [("host", text), ("port", int32OrText)]

def handler : Json.Shape :=
  record [("exec", command), ("httpGet", httpRequest), ("sleep", record [("seconds", int64)]), ("tcpSocket", connection)]

def lifecycle : Json.Shape := record [("postStart", handler), ("preStop", handler)]

def probe : Json.Shape :=
  record [("exec", command), ("failureThreshold", int32), ("grpc", record [("port", int32), ("service", text)]),
    ("httpGet", httpRequest), ("initialDelaySeconds", int32), ("periodSeconds", int32), ("successThreshold", int32),
    ("tcpSocket", connection), ("terminationGracePeriodSeconds", int64), ("timeoutSeconds", int32)]

def exposure : Json.Shape :=
  record (texts ["hostIP", "name", "protocol"] ++ [("containerPort", int32), ("hostPort", int32)])

def resources : Json.Shape :=
  record [("claims", list (record (texts ["name", "request"]))), ("limits", dict text), ("requests", dict text)]

/-- a profile for programs of the container -/
def profile : Json.Shape := record (texts ["localhostProfile", "type"])

def labelOptions : Json.Shape := record (texts ["level", "role", "type", "user"])

def windowsOptions : Json.Shape :=
  record (texts ["gmsaCredentialSpec", "gmsaCredentialSpecName", "runAsUserName"] ++ [("hostProcess", flag)])

/-- what a pod and its containers may do -/
def commonSecurity : List (String × Json.Shape) :=
  [("appArmorProfile", profile), ("runAsGroup", int64), ("runAsNonRoot", flag), ("runAsUser", int64),
   ("seLinuxOptions", labelOptions), ("seccompProfile", profile), ("windowsOptions", windowsOptions)]

def containerSecurity : Json.Shape :=
  record (commonSecurity ++
    [("allowPrivilegeEscalation", flag), ("capabilities", record [("add", list text), ("drop", list text)]),
     ("privileged", flag), ("procMount", text), ("readOnlyRootFilesystem", flag)])

def volumeMount : Json.Shape :=
  record (texts ["mountPath", "mountPropagation", "name", "recursiveReadOnly", "subPath", "subPathExpr"] ++
    [("readOnly", flag)])

def containerFields : List (String × Json.Shape) :=
  texts ["image", "imagePullPolicy", "name", "restartPolicy", "terminationMessagePath", "terminationMessagePolicy",
      "workingDir"] ++
    [("args", list text), ("command", list text), ("env", list envEntry), ("envFrom", list envSource),
     ("lifecycle", lifecycle), ("livenessProbe", probe), ("ports", list exposure), ("readinessProbe", probe),
     ("resizePolicy", list (record (texts ["resourceName", "restartPolicy"]))), ("resources", resources),
     ("securityContext", containerSecurity), ("startupProbe", probe), ("stdin", flag), ("stdinOnce", flag),
     ("tty", flag), ("volumeDevices", list (record (texts ["devicePath", "name"]))),
     ("volumeMounts", list volumeMount)]

def container : Json.Shape := record containerFields

/-- a container added to a running pod -/
def ephemeralContainer : Json.Shape := record (("targetContainerName", text) :: containerFields)

/-! Volumes -/

/-- a storage with texts and a flag against writing -/
def storage (names : List String) (others : List (String × Json.Shape)) : Json.Shape :=
  record (texts names ++ ("readOnly", flag) :: others)

/-- entries of a configuration or a secret as files -/
def keyFiles : Json.Shape := list (record (texts ["key", "path"] ++ [("mode", int32)]))

def fieldFiles : Json.Shape :=
  list (record [("fieldRef", fieldSelector), ("mode", int32), ("path", text), ("resourceFieldRef", resourceSelector)])

def claimSpec : Json.Shape :=
  record (texts ["storageClassName", "volumeAttributesClassName", "volumeMode", "volumeName"] ++
    [("accessModes", list text), ("dataSource", record (texts ["apiGroup", "kind", "name"])),
     ("dataSourceRef", record (texts ["apiGroup", "kind", "name", "namespace"])),
     ("resources", record [("limits", dict text), ("requests", dict text)]), ("selector", labelSelector)])

def projection : Json.Shape :=
  record [("clusterTrustBundle",
      record (texts ["name", "path", "signerName"] ++ [("labelSelector", labelSelector), ("optional", flag)])),
    ("configMap", record [("items", keyFiles), ("name", text), ("optional", flag)]),
    ("downwardAPI", record [("items", fieldFiles)]),
    ("secret", record [("items", keyFiles), ("name", text), ("optional", flag)]),
    ("serviceAccountToken", record (texts ["audience", "path"] ++ [("expirationSeconds", int64)]))]

def volume : Json.Shape :=
  record [("name", text),
    ("awsElasticBlockStore", storage ["fsType", "volumeID"] [("partition", int32)]),
    ("azureDisk", storage ["cachingMode", "diskName", "diskURI", "fsType", "kind"] []),
    ("azureFile", storage ["secretName", "shareName"] []),
    ("cephfs", storage ["path", "secretFile", "user"] [("monitors", list text), ("secretRef", localReference)]),
    ("cinder", storage ["fsType", "volumeID"] [("secretRef", localReference)]),
    ("configMap", record [("defaultMode", int32), ("items", keyFiles), ("name", text), ("optional", flag)]),
    ("csi", storage ["driver", "fsType"]
      [("nodePublishSecretRef", localReference), ("volumeAttributes", dict text)]),
    ("downwardAPI", record [("defaultMode", int32), ("items", fieldFiles)]),
    ("emptyDir", record (texts ["medium", "sizeLimit"])),
    ("ephemeral", record [("volumeClaimTemplate", record [("metadata", metadata), ("spec", claimSpec)])]),
    ("fc", storage ["fsType"] [("lun", int32), ("targetWWNs", list text), ("wwids", list text)]),
    ("flexVolume", storage ["driver", "fsType"] [("options", dict text), ("secretRef", localReference)]),
    ("flocker", record (texts ["datasetName", "datasetUUID"])),
    ("gcePersistentDisk", storage ["fsType", "pdName"] [("partition", int32)]),
    ("gitRepo", record (texts ["directory", "repository", "revision"])),
    ("glusterfs", storage ["endpoints", "path"] []),
    ("hostPath", record (texts ["path", "type"])),
    ("image", record (texts ["pullPolicy", "reference"])),
    ("iscsi", storage ["fsType", "initiatorName", "iqn", "iscsiInterface", "targetPortal"]
      [("chapAuthDiscovery", flag), ("chapAuthSession", flag), ("lun", int32), ("portals", list text),
       ("secretRef", localReference)]),
    ("nfs", storage ["path", "server"] []),
    ("persistentVolumeClaim", storage ["claimName"] []),
    ("photonPersistentDisk", record (texts ["fsType", "pdID"])),
    ("portworxVolume", storage ["fsType", "volumeID"] []),
    ("projected", record [("defaultMode", int32), ("sources", list projection)]),
    ("quobyte", storage ["group", "registry", "tenant", "user", "volume"] []),
    ("rbd", storage ["fsType", "image", "keyring", "pool", "user"]
      [("monitors", list text), ("secretRef", localReference)]),
    ("scaleIO", storage ["fsType", "gateway", "protectionDomain", "storageMode", "storagePool", "system", "volumeName"]
      [("secretRef", localReference), ("sslEnabled", flag)]),
    ("secret", record [("defaultMode", int32), ("items", keyFiles), ("optional", flag), ("secretName", text)]),
    ("storageos", storage ["fsType", "volumeName", "volumeNamespace"] [("secretRef", localReference)]),
    ("vsphereVolume", record (texts ["fsType", "storagePolicyID", "storagePolicyName", "volumePath"]))]

/-! Scheduling -/

/-- rules that are preferred, and rules that are required -/
def rules (preferred required : Json.Shape) : Json.Shape :=
  record [("preferredDuringSchedulingIgnoredDuringExecution", list preferred),
    ("requiredDuringSchedulingIgnoredDuringExecution", required)]

def nodeTerm : Json.Shape := record [("matchExpressions", list requirement), ("matchFields", list requirement)]

def podTerm : Json.Shape :=
  record [("labelSelector", labelSelector), ("matchLabelKeys", list text), ("mismatchLabelKeys", list text),
    ("namespaceSelector", labelSelector), ("namespaces", list text), ("topologyKey", text)]

def affinity : Json.Shape :=
  let pods := rules (record [("podAffinityTerm", podTerm), ("weight", int32)]) (list podTerm)
  record [("nodeAffinity", rules (record [("preference", nodeTerm), ("weight", int32)])
      (record [("nodeSelectorTerms", list nodeTerm)])),
    ("podAffinity", pods), ("podAntiAffinity", pods)]

def toleration : Json.Shape :=
  record (texts ["effect", "key", "operator", "value"] ++ [("tolerationSeconds", int64)])

def spread : Json.Shape :=
  record (texts ["nodeAffinityPolicy", "nodeTaintsPolicy", "topologyKey", "whenUnsatisfiable"] ++
    [("labelSelector", labelSelector), ("matchLabelKeys", list text), ("maxSkew", int32), ("minDomains", int32)])

/-! Pods -/

def podSecurity : Json.Shape :=
  record (commonSecurity ++ texts ["fsGroupChangePolicy", "seLinuxChangePolicy", "supplementalGroupsPolicy"] ++
    [("fsGroup", int64), ("supplementalGroups", list int64), ("sysctls", list (record (texts ["name", "value"])))])

def nameResolution : Json.Shape :=
  record [("nameservers", list text), ("options", list (record (texts ["name", "value"]))), ("searches", list text)]

def spec : Json.Shape :=
  record (texts ["dnsPolicy", "hostname", "nodeName", "preemptionPolicy", "priorityClassName", "restartPolicy",
      "runtimeClassName", "schedulerName", "serviceAccount", "serviceAccountName", "subdomain"] ++
    [("activeDeadlineSeconds", int64), ("affinity", affinity), ("automountServiceAccountToken", flag),
     ("containers", list container), ("dnsConfig", nameResolution), ("enableServiceLinks", flag),
     ("ephemeralContainers", list ephemeralContainer),
     ("hostAliases", list (record [("hostnames", list text), ("ip", text)])), ("hostIPC", flag), ("hostNetwork", flag),
     ("hostPID", flag), ("hostUsers", flag), ("imagePullSecrets", list localReference),
     ("initContainers", list container), ("nodeSelector", dict text), ("os", record (texts ["name"])),
     ("overhead", dict text), ("priority", int32), ("readinessGates", list (record (texts ["conditionType"]))),
     ("resourceClaims", list (record (texts ["name", "resourceClaimName", "resourceClaimTemplateName"]))),
     ("resources", resources), ("schedulingGates", list (record (texts ["name"]))), ("securityContext", podSecurity),
     ("setHostnameAsFQDN", flag), ("shareProcessNamespace", flag), ("terminationGracePeriodSeconds", int64),
     ("tolerations", list toleration), ("topologySpreadConstraints", list spread), ("volumes", list volume)])

def shape : Json.Shape := record [("metadata", metadata), ("spec", spec)]

end TrainingJobs.PodTemplate
