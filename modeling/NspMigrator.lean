import NspMigrator.CanonicalGroupExpansion
import NspMigrator.CanonicalModels
import NspMigrator.CanonicalReader
import NspMigrator.CanonicalRuleQueries
import NspMigrator.CanonicalScope
import NspMigrator.CiscoAcls
import NspMigrator.CiscoAddressLines
import NspMigrator.CiscoAddresses
import NspMigrator.CiscoAnyService
import NspMigrator.CiscoClosure
import NspMigrator.CiscoConfigTree
import NspMigrator.CiscoGroupLines
import NspMigrator.CiscoIndex
import NspMigrator.CiscoLeafKeys
import NspMigrator.CiscoMemberLines
import NspMigrator.CiscoNormalizer
import NspMigrator.CiscoParsedConfig
import NspMigrator.CiscoParser
import NspMigrator.CiscoPortClauses
import NspMigrator.CiscoReferences
import NspMigrator.CiscoRowRuns
import NspMigrator.CiscoRuleKeys
import NspMigrator.CiscoRuleReferences
import NspMigrator.CiscoRuleRows
import NspMigrator.CiscoRuleServices
import NspMigrator.CiscoRuleTranslation
import NspMigrator.CiscoRules
import NspMigrator.CiscoServiceBuilders
import NspMigrator.CiscoServiceLines
import NspMigrator.CiscoServiceMembers
import NspMigrator.CiscoServiceTargets
import NspMigrator.CiscoServices
import NspMigrator.CiscoState
import NspMigrator.CiscoSubnetLines
import NspMigrator.CiscoTokens
import NspMigrator.ExecuteCacheRefinement
import NspMigrator.ExecuteCoverage
import NspMigrator.ExecuteCoverageDetails
import NspMigrator.ExecuteDuplicates
import NspMigrator.ExecuteExactMatch
import NspMigrator.ExecuteFqdnAgreement
import NspMigrator.ExecuteGateway
import NspMigrator.ExecuteMatchSoundness
import NspMigrator.ExecutePlan
import NspMigrator.ExecutePrepare
import NspMigrator.ExecutePush
import NspMigrator.ExecutePushAccounting
import NspMigrator.ExecutePushOnce
import NspMigrator.ExecutePushOutcomes
import NspMigrator.ExecutePushSpec
import NspMigrator.ExecuteRepository
import NspMigrator.ExecuteRuleValues
import NspMigrator.ExecuteRulesComparer
import NspMigrator.ExecuteValues
import NspMigrator.ExecuteWithholding
import NspMigrator.FirstMatch
import NspMigrator.GroupReach
import NspMigrator.Ipv4
import NspMigrator.Ipv4Text
import NspMigrator.MappingAutoCreate
import NspMigrator.MappingCatalogIndexes
import NspMigrator.MappingCreateRoundTrip
import NspMigrator.MappingEntities
import NspMigrator.MappingGroupIndex
import NspMigrator.MappingGroupMembers
import NspMigrator.MappingObjects
import NspMigrator.MappingProjection
import NspMigrator.MappingProjectionAgreement
import NspMigrator.MappingProjectionRows
import NspMigrator.MappingProjectionRuns
import NspMigrator.MappingReader
import NspMigrator.MappingReaderIds
import NspMigrator.MappingRepository
import NspMigrator.MappingRules
import NspMigrator.MappingRulesExact
import NspMigrator.MappingScan
import NspMigrator.MappingSchemas
import NspMigrator.MappingScopeInvariant
import NspMigrator.MappingScopeLinks
import NspMigrator.MappingScopeRead
import NspMigrator.MappingScopeSources
import NspMigrator.MappingScopeSpec
import NspMigrator.MappingSelectionSpec
import NspMigrator.MappingSelections
import NspMigrator.MappingSoundness
import NspMigrator.MappingUseCases
import NspMigrator.MappingZoneAssignment
import NspMigrator.MappingZoneNames
import NspMigrator.MappingZoneSpec
import NspMigrator.MigrationRequests
import NspMigrator.NearestParent
import NspMigrator.PlanStaleness
import NspMigrator.PyAsync
import NspMigrator.PyDict
import NspMigrator.PyExcept
import NspMigrator.PyJson
import NspMigrator.PyLoop
import NspMigrator.PyRegistry
import NspMigrator.PyRepr
import NspMigrator.PyState
import NspMigrator.PyText
import NspMigrator.PyWords
import NspMigrator.ReportAgreement
import NspMigrator.ReportQueries
import NspMigrator.ReportRules
import NspMigrator.RuntimeCacheStore
import NspMigrator.SdwanAddressGroups
import NspMigrator.SdwanCatalogReading
import NspMigrator.SdwanClientProvider
import NspMigrator.SdwanFingerprint
import NspMigrator.SdwanGroupLoading
import NspMigrator.SdwanGroupMembers
import NspMigrator.SdwanModels
import NspMigrator.SdwanPaging
import NspMigrator.SdwanParentQueries
import NspMigrator.SdwanSchemas
import NspMigrator.SqlLike
import NspMigrator.SqlPages
import NspMigrator.TtlCache
