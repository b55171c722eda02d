import BucketAcl.Main
import BucketAcl.Proofs.Call.ObjectInfo
import BucketAcl.Proofs.SigV4.Sent
import BucketAcl.Proofs.Acl.RoundTrip
import BucketAcl.Proofs.Acl.AnyLayout
import BucketAcl.Proofs.Url.Bucket
import BucketAcl.Proofs.SigV4.Unambiguous
import BucketAcl.Proofs.Endpoint
import BucketAcl.Proofs.Call.Single
import BucketAcl.Proofs.SigV4.Secret
import BucketAcl.Proofs.Acl.RootName
import BucketAcl.Proofs.CommandLine.Refinement
import BucketAcl.Proofs.CommandLine.Report
import BucketAcl.Proofs.CommandLine.Location
import BucketAcl.Proofs.CommandLine.Sources
import BucketAcl.Proofs.Url.ObjectPath
import BucketAcl.Proofs.Call.Put
import BucketAcl.Proofs.Merges
import BucketAcl.Proofs.SigV4.History
import BucketAcl.Proofs.Acl.Inference
import BucketAcl.Proofs.Acl.GrantLine
import BucketAcl.Proofs.Reply.ErrorDocument
import BucketAcl.Proofs.Reply.Refusal
import BucketAcl.Proofs.Call.Refused
import BucketAcl.Proofs.HeaderFields
import BucketAcl.Proofs.Acl.GrantHeaders
