import Eky.JavaScript
import Eky.Fallible
import Eky.OrderedMap
import Eky.Apportionment
import Eky.InvoiceMoney
import Eky.VatGroups
import Eky.InvoiceCalculation
import Eky.VatDistribution
import Eky.CreditInvoice
import Eky.CreditLineProofs
import Eky.CreditTaxProofs
import Eky.CreditDraft
import Eky.CreditDraftProofs
import Eky.CreditDraftAcceptance
import Eky.AcceptedDraft
import Eky.TransitionSystem
import Eky.CreditLedger
import Eky.CreditHistory
import Eky.CreditDraftModel
import Eky.RemainingCredit
import Eky.SourceCredits
import Eky.PathIndependence
import Eky.RestOfInvoice
import Eky.CreditCompletion
import Eky.PartialCredit
import Eky.ReverseCharge
import Eky.ReverseChargeProofs
import Eky.ReverseChargeHistory
import Eky.FaultProgram
import Eky.FileSlots
import Eky.ByteSlotStore
import Eky.StoredValue
import Eky.ByteSlotProofs
import Eky.ByteSlotHistory
import Eky.RecordFiles
import Eky.RecordFileProofs
import Eky.RecordHistory
import Eky.UpdateJournalStore
import Eky.JournalHistory
import Eky.BuildIdentity
import Eky.UpdateJournal
import Eky.InstalledBuild
import Eky.BuildAdmission
import Eky.PackageCache
import Eky.PackageCacheProofs
import Eky.OneFault
import Eky.Registration
import Eky.PackageRotation
import Eky.FirstStart
import Eky.FirstStartProofs
import Eky.FirstStartRuns
import Eky.StartGates
import Eky.Handoff
import Eky.HandoffProofs
import Eky.HandoffHistory
import Eky.FinishedUpdate
import Eky.Rollback
import Eky.RollbackHistory
import Eky.WorkspaceRegistry
import Eky.WorkspaceSwitch
import Eky.WorkspaceSwitchProofs
import Eky.SwitchHistory
import Eky.WorkspaceMigration
import Eky.WorkspaceMigrationProofs
import Eky.MigrationHistory
import Eky.SwitchedUpdate
import Eky.RestoreJournal
import Eky.RestoreJournalStore
import Eky.RestoreJournalProofs
import Eky.RestoreJournalHistory
import Eky.RestoreActivation
import Eky.RestoreActivationProofs
import Eky.RestoreActivationForward
import Eky.RestoreActivationRollback
import Eky.RestoreActivationHistory
import Eky.WorkspacePublication
import Eky.WorkspaceDirectory
import Eky.EmptyWorkspaceCreation
import Eky.EmptyWorkspaceCreationProofs
import Eky.CreationHistory
import Eky.Buffers
import Eky.BackupEntry
import Eky.BackupEntryProofs
import Eky.BackupManifest
import Eky.BackupManifestProofs
import Eky.BackupPayload
import Eky.BackupPayloadProofs
import Eky.BackupContainerHeader
import Eky.BackupCanonical
import Eky.BackupExtraction
import Eky.BackupRoundTrip
import Eky.InvoiceForm
import Eky.InvoicePreview
import Eky.InvoicePreviewProofs
import Eky.InvoiceDraftFormProofs
import Eky.Base64
import Eky.AsciiLines
import Eky.SmtpData
import Eky.SmtpReplies
import Eky.MailFormat
import Eky.InvoiceMime
import Eky.InvoiceMimeFields
import Eky.InvoiceMimeProofs
import Eky.InvoiceArrival
import Eky.RankedLists
import Eky.RecoveryPointRetention
import Eky.RecoveryPointRetentionProofs
import Eky.Decimals
import Eky.InvoiceNumbering
import Eky.SafeSequenceNumber
import Eky.MapSweep
import Eky.SendAttemptStore
import Eky.SendAttemptProofs
import Eky.SendAttemptRuns
import Eky.ExactInvoice
import Eky.StreamDecoders
import Eky.InvoiceHistoryText
import Eky.RevisionPairs
import Eky.CreditInvoiceOrder
import Eky.CreditOrder
import Eky.LegacyRevision
import Eky.InvoiceApproval
import Eky.InvoiceApprovalProofs
import Eky.IssuedInvoices
import Eky.DeletionPagesProofs
import Eky.DuplicateKeysExact
import Eky.DistributeAmount
import Eky.VersionPrecedence
import Eky.WorkspaceRegistryMutations
import Eky.WorkspaceRegistryStore
import Eky.SecretHistory
import Eky.InvoiceReferenceNumber
import Eky.Tables
import Eky.InvoiceLedger
import Eky.LedgerInvoices
import Eky.LedgerDeliveries
import Eky.DocumentStoragePath
import Eky.LedgerChanges
import Eky.LedgerHistory
import Eky.LedgerInFlight
import Eky.LedgerNumbers
import Eky.LedgerDrafts
import Eky.LedgerSent
import Eky.LedgerPayments
